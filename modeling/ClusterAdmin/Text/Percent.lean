import ClusterAdmin.Bytes

namespace ClusterAdmin.Text.Percent

/-- The octet as a percent sign and two digits. -/
def encodeOctet (b : UInt8) : List Char :=
  ['%', (Bytes.hexDigit (b.toNat / 16)).toUpper, (Bytes.hexDigit (b.toNat % 16)).toUpper]

/-- The text with those characters encoded that may not stand there. What is encoded already stays
so. -/
def encode (allowed : Char → Bool) (t : List Char) : List Char :=
  t.flatMap fun c =>
    if allowed c then [c] else (Bytes.ofText (String.singleton c)).flatMap encodeOctet

/-- The octets of a text. A percent sign without two digits after it stands for itself. -/
def decode : List Char → Bytes
  | [] => []
  | c :: r =>
    match c, r with
    | '%', a :: b :: rest =>
      match Bytes.hexValue? a, Bytes.hexValue? b with
      | some x, some y => UInt8.ofNat (16 * x + y) :: decode rest
      | _, _ => 37 :: decode (a :: b :: rest)
    | c, r => Bytes.ofText (String.singleton c) ++ decode r

end ClusterAdmin.Text.Percent
