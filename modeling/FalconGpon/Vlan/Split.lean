/-
# The downstream split

Rules with different filter VIDs and one treatment VID collide downstream. The file
`/tmp/8311_dual_vlan.conf` says which mapper ME each of the VIDs belongs to, one to a line, or in
the order of the VIDs after a line `auto`; the colliding rules then go to downstream tables of
these mappers.
-/

import FalconGpon.Vlan.OperList

namespace FalconGpon.Vlan

/-- `MAX_SHADOW_DS_TABLES`. -/
def maxShadowDsTables : Nat :=
  8

section Scan

/-! ### Reading lines and numbers -/

/-- `fgets` with room for `size - 1` characters: the line up to its end or as far as it fits, and
the rest. -/
def fgets : Nat → List Char → List Char × List Char
  | size + 2, c :: rest =>
      if c = '\n' then ([c], rest)
      else
        let line := fgets (size + 1) rest
        (c :: line.1, line.2)
  | _, text => ([], text)

/-- The value of a digit. -/
def digitValue (base : Nat) (c : Char) : Option Nat :=
  let value :=
    if '0' ≤ c ∧ c ≤ '9' then some (c.toNat - '0'.toNat)
    else if 'a' ≤ c ∧ c ≤ 'f' then some (c.toNat - 'a'.toNat + 10)
    else if 'A' ≤ c ∧ c ≤ 'F' then some (c.toNat - 'A'.toNat + 10)
    else none
  value.filter (· < base)

/-- The digits at the head of a text, and the rest. -/
def scanDigits (base : Nat) : List Char → List Nat × List Char
  | [] => ([], [])
  | c :: rest =>
      match digitValue base c with
      | some digit =>
          let digits := scanDigits base rest
          (digit :: digits.1, digits.2)
      | none => ([], c :: rest)

def skipSpace (text : List Char) : List Char :=
  text.dropWhile (·.isWhitespace)

/-- A number of at least one digit, as an `unsigned int`; too large ones saturate, where C leaves
the result undefined. -/
def scanNumber (base : Nat) (text : List Char) : Option (Nat × List Char) :=
  let digits := scanDigits base text
  if digits.1 = [] then none
  else some (min (digits.1.foldl (fun n digit => base * n + digit) 0) (2 ^ 32 - 1), digits.2)

/-- The conversions `%u` and `%x`: white space, a sign, and a prefix `0x` in base 16. -/
def scanConversion (base : Nat) (text : List Char) : Option (Nat × List Char) :=
  let signed :=
    match skipSpace text with
    | '-' :: rest => (true, rest)
    | '+' :: rest => (false, rest)
    | rest => (false, rest)
  let digits :=
    match base, signed.2 with
    | 16, '0' :: 'x' :: rest => rest
    | 16, '0' :: 'X' :: rest => rest
    | _, rest => rest
  (scanNumber base digits).map fun scanned =>
    (if signed.1 then (2 ^ 32 - scanned.1) % 2 ^ 32 else scanned.1, scanned.2)

def scanText (expected text : List Char) : Option (List Char) :=
  if expected.isPrefixOf text then some (text.drop expected.length) else none

/-- `sscanf(line, "0x%x")` or else `sscanf(line, "%u")`. -/
def scanMapper (line : List Char) : Option Nat :=
  ((scanText ['0', 'x'] line).bind (scanConversion 16) |>.or (scanConversion 10 line)).map (·.1)

/-- `sscanf(line, "%u:0x%x")` or else `sscanf(line, "%u:%u")`. -/
def scanPair (line : List Char) : Option (Nat × Nat) :=
  (scanConversion 10 line).bind fun vid =>
    ((scanText [':', '0', 'x'] vid.2).bind (scanConversion 16) |>.or
      ((scanText [':'] vid.2).bind (scanConversion 10))).map fun mapper => (vid.1, mapper.1)

end Scan

/-- What `read_dual_vlan_config` reads. -/
structure DualVlanConfig where
  isAuto : Bool
  /-- `cfg_vids` and `cfg_mappers`; without VIDs after `auto`. -/
  entries : List (BitVec 16 × BitVec 16)

def isBlank (line : List Char) : Bool :=
  line.head? = some '#' ∨ line.head? = some '\n'

/-- The lines after `auto`. -/
def readAuto : Nat → List Char → Nat → List (BitVec 16 × BitVec 16)
  | 0, _, _ => []
  | fuel + 1, text, room =>
      let line := fgets 64 text
      if line.1 = [] ∨ room = 0 then []
      else if isBlank line.1 then readAuto fuel line.2 room
      else
        match scanMapper line.1 with
        | some mapper => (0, BitVec.ofNat 16 mapper) :: readAuto fuel line.2 (room - 1)
        | none => readAuto fuel line.2 room

/-- The loop over the lines, with room for `room` more entries. -/
def readLines : Nat → List Char → Nat → DualVlanConfig
  | 0, _, _ => ⟨false, []⟩
  | fuel + 1, text, room =>
      let line := fgets 64 text
      if line.1 = [] ∨ room = 0 then ⟨false, []⟩
      else if isBlank line.1 ∨ line.1.head? = some '\x00' then readLines fuel line.2 room
      else if ['a', 'u', 't', 'o'].isPrefixOf line.1 then ⟨true, readAuto fuel line.2 room⟩
      else
        match scanPair line.1 with
        | some (vid, mapper) =>
            let config := readLines fuel line.2 (room - 1)
            { config with
              entries := (BitVec.ofNat 16 vid, BitVec.ofNat 16 mapper) :: config.entries }
        | none => readLines fuel line.2 room

/-- `read_dual_vlan_config`; without a file there are no entries. Every line has a character,
so there are no more lines than characters. -/
def readDualVlanConfig : Option (List Char) → DualVlanConfig
  | none => ⟨false, []⟩
  | some text => readLines (text.length + 1) text maxShadowDsTables

/-- `struct ds_collision_group` before the mappers are assigned. -/
structure DsCollisionGroup where
  treatmentVid : BitVec 13
  filterVids : List (BitVec 13)
deriving DecidableEq

/-- The rules that `detect_ds_collisions` looks at: no wildcards and no rules that discard. -/
def RxVlanOperTable.splits (e : RxVlanOperTable) : Bool :=
  e.filterInnerVid.toNat < 4095 ∧ e.treatmentTagsRemove ≠ 3

/-- Add a VID to a group unless it is there or the group is full. -/
def DsCollisionGroup.add (group : DsCollisionGroup) (vid : BitVec 13) : DsCollisionGroup :=
  if group.filterVids.length < 8 ∧ vid ∉ group.filterVids then
    { group with filterVids := group.filterVids ++ [vid] }
  else group

/-- The VIDs of the later rules that collide with rule `e`. -/
def collidingVids (e : RxVlanOperTable) (later : List RxVlanOperTable) : List (BitVec 13) :=
  (later.filter fun e' => e'.splits ∧ e.treatmentInnerVid = e'.treatmentInnerVid ∧
    e.filterInnerVid ≠ e'.filterInnerVid).map (·.filterInnerVid)

/-- Put the rules that collide with `e` into the group of its treatment VID, or into a new one
with `e`. -/
def collide (groups : List DsCollisionGroup) (e : RxVlanOperTable)
    (later : List RxVlanOperTable) : List DsCollisionGroup :=
  match collidingVids e later with
  | [] => groups
  | vid :: vids =>
      if groups.any (·.treatmentVid = e.treatmentInnerVid) then
        groups.map fun group =>
          if group.treatmentVid = e.treatmentInnerVid then
            (vid :: vids).foldl DsCollisionGroup.add group
          else group
      else
        groups ++ [(vid :: vids).foldl DsCollisionGroup.add
          ⟨e.treatmentInnerVid, [e.filterInnerVid]⟩]

/-- `detect_ds_collisions` from rule to rule until there are `maxGroups` groups. -/
def detectDsCollisions (maxGroups : Nat) (groups : List DsCollisionGroup) :
    List RxVlanOperTable → List DsCollisionGroup
  | [] => groups
  | e :: later =>
      if groups.length < maxGroups then
        detectDsCollisions maxGroups (if e.splits then collide groups e later else groups) later
      else groups

/-- `mapper_me_ids[v]` of group `g`: the place in the file, or the entry with the same VID.
Beyond the number of entries it is whatever was on the stack; 0 stands for none. -/
def mapperMeId (config : DualVlanConfig) (stack : Nat → Nat → BitVec 16)
    (g v : Nat) (vid : BitVec 13) : BitVec 16 :=
  if v < config.entries.length then
    if config.isAuto then (config.entries[v]?.map (·.2)).getD 0
    else ((config.entries.find? (·.1 = vid.setWidth 16)).map (·.2)).getD 0
  else stack g v

/-- The group and the place in it that a rule is found at. -/
def collisionOf (groups : List DsCollisionGroup) (e : RxVlanOperTable) : Option (Nat × Nat) :=
  let g := groups.findIdx fun group =>
    group.treatmentVid = e.treatmentInnerVid ∧ e.filterInnerVid ∈ group.filterVids
  groups[g]?.map fun group => (g, group.filterVids.idxOf e.filterInnerVid)

end FalconGpon.Vlan
