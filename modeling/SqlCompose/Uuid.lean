import SqlCompose.Text.Digits

/-!
# Universally unique identifiers

Numbers of 128 bits, written as 32 hexadecimal digits in five groups.
-/

namespace SqlCompose

structure Uuid where
  value : BitVec 128
deriving DecidableEq

namespace Uuid

/-- The 32 digits, the highest first. -/
def digits (u : Uuid) : List Char :=
  let ds := Nat.toDigits 16 u.value.toNat
  List.replicate (32 - ds.length) '0' ++ ds

/-- The digits in lower case with hyphens between the groups. -/
def text (u : Uuid) : String :=
  let ds := u.digits
  "-".intercalate <| List.map String.ofList
    [ds.take 8, (ds.drop 8).take 4, (ds.drop 12).take 4, (ds.drop 16).take 4, ds.drop 20]

def ofDigits? (ds : List Char) : Option Uuid := do
  let values ← ds.mapM Text.hexValue?
  if ds.length = 32 then some ⟨BitVec.ofNat 128 (values.foldl (fun n v => n * 16 + v) 0)⟩ else none

def ofGroups? (cs : List Char) : Option Uuid :=
  let groups := cs.splitOn '-'
  if groups.map List.length = [8, 4, 4, 4, 12] then ofDigits? groups.flatten else none

/-- What stands before the groups of an identifier that is written as a resource name. -/
def scheme : List Char := "urn:uuid:".toList

/-- Reads the digits bare or in groups, and the groups also in braces or after the scheme, which may
be in any letter case. -/
def ofText? (s : String) : Option Uuid :=
  let cs := s.toList
  let braced :=
    match cs with
    | '\x7b' :: rest => if rest.getLast? = some '\x7d' then some rest.dropLast else none
    | _ => none
  let named :=
    if (cs.take scheme.length).map Char.toLower = scheme then some (cs.drop scheme.length) else none
  (ofDigits? cs).or <| (ofGroups? cs).or <| (braced.bind ofGroups?).or (named.bind ofGroups?)

end Uuid

end SqlCompose
