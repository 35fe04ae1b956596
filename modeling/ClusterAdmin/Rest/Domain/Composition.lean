import ClusterAdmin.Rest.Domain.Composition.Chart

namespace ClusterAdmin.Rest.Domain

/-- Marks of a class other than zero may change places with marks of other classes. -/
def combiningClass (c : Char) : Nat :=
  (((classes.content? c.toNat).bind List.head?).getD 0)

/-- A character in its parts. None has more than three. -/
def apart (c : Char) : List Char :=
  match parts.content? c.toNat with
  | some [a, b] =>
    match parts.content? a with
    | some [x, y] => [Char.ofNat x, Char.ofNat y, Char.ofNat b]
    | _ => [Char.ofNat a, Char.ofNat b]
  | _ => [c]

/-- Puts a character in front of marks that are in order. -/
def place (c : Char) : List Char → List Char
  | [] => [c]
  | d :: r =>
    if 0 < combiningClass d ∧ combiningClass d < combiningClass c then d :: place c r
    else c :: d :: r

/-- Puts the marks after each character in order. -/
def arrange (t : List Char) : List Char := t.foldr place []

/-- The syllable of a leading letter and a vowel, or of such a syllable and a trailing letter. -/
def syllable? (a b : Nat) : Option Nat :=
  if 0x1100 ≤ a ∧ a ≤ 0x1112 ∧ 0x1161 ≤ b ∧ b ≤ 0x1175 then
    some (0xac00 + ((a - 0x1100) * 21 + (b - 0x1161)) * 28)
  else if 0xac00 ≤ a ∧ a ≤ 0xd7a3 ∧ (a - 0xac00) % 28 = 0 ∧ 0x11a8 ≤ b ∧ b ≤ 0x11c2 then
    some (a + (b - 0x11a7))
  else none

/-- The character that two make up together. -/
def join? (a b : Char) : Option Char :=
  (syllable? a.toNat b.toNat).or
    ((List.find? (·.content == [a.toNat, b.toNat]) parts).map (·.first)) |>.map Char.ofNat

/-- Joins what follows a base with it, where no mark in between is in the way. Such marks are given
the last first. -/
def joinAll : Option Char → List Char → List Char → List Char
  | none, _, [] => []
  | none, _, c :: r => if combiningClass c = 0 then joinAll (some c) [] r else c :: joinAll none [] r
  | some base, between, [] => base :: between.reverse
  | some base, between, c :: r =>
    let free := between.head?.all fun d => combiningClass d < combiningClass c
    match if free then join? base c else none with
    | some whole => joinAll (some whole) between r
    | none =>
      if combiningClass c = 0 then base :: between.reverse ++ joinAll (some c) [] r
      else joinAll (some base) (c :: between) r

/-- The composed form. No character below U+0300 joins the one before it. -/
def composed (t : List Char) : List Char :=
  if t.all (·.toNat < 0x300) then t else joinAll none [] (arrange (t.flatMap apart))

end ClusterAdmin.Rest.Domain
