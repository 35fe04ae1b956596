namespace ClusterAdmin.Word

abbrev maxNat32 : Nat := 4294967295
abbrev maxNat64 : Nat := 18446744073709551615
abbrev minInt32 : Int := -2147483648
abbrev maxInt32 : Int := 2147483647
abbrev minInt64 : Int := -9223372036854775808
abbrev maxInt64 : Int := 9223372036854775807

end ClusterAdmin.Word
