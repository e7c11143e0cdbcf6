/-
# Runs of filter preassign operations

A port's entry of the exception table shows the operations of the last request that was carried
out on the entry. Ports at one side have different entries; a port at the ANI side and one at the
UNI side can have the same, so that each changes the flags of the other.
-/

import FalconGpon.Api.FilterPreassign

namespace FalconGpon.Api

open FalconGpon.Lib FilterPreassign

/-- The operations on the filter preassign table of a bridge port. -/
inductive PreassignOp
  | create (meId : BitVec 16) (filters : PreassignFilters)
  | update (meId : BitVec 16) (filters : PreassignFilters)
  | destroy (meId : BitVec 16)

namespace PreassignOp

/-- The ME that an operation is for. -/
def meId : PreassignOp → BitVec 16
  | create meId _ => meId
  | update meId _ => meId
  | destroy meId => meId

/-- The operations that are asked for. -/
def filters : PreassignOp → PreassignFilters
  | create _ filters => filters
  | update _ filters => filters
  | destroy _ => forwarding

/-- The operation. -/
def run (env : PreassignEnv) : PreassignOp → PreassignProgram Unit
  | create meId filters => omciApiMacBridgePortFilterPreassignTableCreate env meId filters
  | update meId filters => omciApiMacBridgePortFilterPreassignTableUpdate env meId filters
  | destroy meId => omciApiMacBridgePortFilterPreassignTableDestroy env meId

end PreassignOp

/-- An operation on a filter preassign table, or a bridge port that gets its index or loses it. -/
inductive PreassignEvent
  | preassign (env : PreassignEnv) (op : PreassignOp)
  | bridgePortMap (meId : BitVec 16) (mem : Bool)
  | bridgePortRemove (meId : BitVec 16)

/-- A request that was carried out: the port with its side and its entry, and what it asked
for. -/
structure PreassignRequest where
  aniIndication : Bool
  meId : BitVec 16
  index : BitVec 32
  filters : PreassignFilters
deriving DecidableEq

/-- The mapper and the tables, with the requests that were carried out, the last one first. -/
structure PreassignState where
  mapper : Mappers
  exception : BitVec 32 → ExceptionRow
  redirection : BitVec 32 → RedirectionRow
  history : List PreassignRequest

/-- The flags of an entry show the operations; the flag for ARP may be set without being asked
for. -/
def ExceptionRow.Shows (row : ExceptionRow) (filters : PreassignFilters) : Prop :=
  ∀ protocol ∈ filters.table,
    if protocol.2 = onuGpeExceptionOffsetArp then
      protocol.1 = operationFilter → row.egressExceptionFlagMask.getLsbD protocol.2 = true
    else protocol.1 = operationOf (row.egressExceptionFlagMask.getLsbD protocol.2)

namespace PreassignState

def ctx (s : PreassignState) : PreassignCtx :=
  ⟨s.mapper, s.exception, s.redirection, []⟩

def outcome (s : PreassignState) (env : PreassignEnv) (op : PreassignOp) :
    Option Unit × PreassignCtx :=
  op.run env s.ctx

def Mapped (s : PreassignState) (aniIndication : Bool) (meId : BitVec 16) (index : BitVec 32) :
    Prop :=
  s.mapper.Mapped (exceptIdType aniIndication) (meId.setWidth 32) index

/-- The request of an operation, if its port has an entry in a mapper. -/
def request (s : PreassignState) (env : PreassignEnv) (op : PreassignOp) (mapper : Mappers) :
    Option PreassignRequest := do
  let aniIndication ← (omciApiMacBridgePortIsAni env op.meId s.ctx).1
  let index ← (indexGet (exceptIdType aniIndication) op.meId { s.ctx with mapper := mapper }).1
  return ⟨aniIndication, op.meId, index, op.filters⟩

/-- The mapper that has the entry of the port: the one behind a creation, else the one before. -/
def entries (s : PreassignState) (env : PreassignEnv) (op : PreassignOp) : Mappers :=
  match op with
  | .create _ _ => (s.outcome env op).2.mapper
  | _ => s.mapper

def carried (s : PreassignState) (env : PreassignEnv) (op : PreassignOp) :
    Option PreassignRequest :=
  (s.outcome env op).1.bind fun _ => s.request env op (s.entries env op)

def operate (s : PreassignState) (env : PreassignEnv) (op : PreassignOp) : PreassignState :=
  let left := (s.outcome env op).2
  ⟨left.mapper, left.exception, left.redirection, (s.carried env op).toList ++ s.history⟩

/-- One event. -/
def step (s : PreassignState) : PreassignEvent → Option PreassignState
  | .preassign env op => some (s.operate env op)
  | .bridgePortMap meId mem =>
      some { s with
        mapper := (s.mapper.idMap MapperIdType.macbridgeportMeidToIdx (meId.setWidth 32) mem).1 }
  | .bridgePortRemove meId =>
      some { s with
        mapper := (s.mapper.idRemove MapperIdType.macbridgeportMeidToIdx (meId.setWidth 32)).1 }

def init (maxBridgePort : BitVec 32) (exception : BitVec 32 → ExceptionRow)
    (redirection : BitVec 32 → RedirectionRow) : PreassignState :=
  ⟨Mappers.init maxBridgePort, exception, redirection, []⟩

def lastAt (s : PreassignState) (index : BitVec 32) : Option PreassignRequest :=
  s.history.find? fun request => request.index = index

def lastOf (s : PreassignState) (aniIndication : Bool) (meId : BitVec 16) :
    Option PreassignRequest :=
  s.history.find? fun request => request.aniIndication = aniIndication ∧ request.meId = meId

/-- The entry of each port shows the last request on it, which is the last one for the port
unless it is of a port at the other side. -/
def FlagsRight (s : PreassignState) : Prop :=
  ∀ ani meId index, s.Mapped ani meId index →
    ∃ request, s.lastAt index = some request ∧ (s.exception index).Shows request.filters ∧
      (s.lastOf ani meId = some request ∨ request.aniIndication ≠ ani)

def ArpSet (s : PreassignState) (index : BitVec 32) : Prop :=
  (s.exception index).egressExceptionFlagMask.getLsbD onuGpeExceptionOffsetArp = true

/-- The operation is a creation, and an entry can be mapped for its port. -/
def MapsEntry (s : PreassignState) (env : PreassignEnv) : PreassignOp → Prop
  | .create meId _ => ∃ ani index, (omciApiMacBridgePortIsAni env meId s.ctx).1 = some ani ∧
      (s.mapper.idMap (exceptIdType ani) (meId.setWidth 32) env.mem).2 = .found index
  | _ => False

/-- An operation is not carried out: it leaves the ports' entries and their flags, and returns an
error, or it is a creation that had mapped an entry. -/
structure Ignored (before : PreassignState) (env : PreassignEnv) (op : PreassignOp)
    (after : PreassignState) : Prop where
  history : after.history = before.history
  mapped : ∀ ani meId index, after.Mapped ani meId index ↔ before.Mapped ani meId index
  exception : after.exception = before.exception
  redirection : (∀ index, ¬before.ArpSet index) → after.redirection = before.redirection
  error : (before.outcome env op).1 = none ∨ before.MapsEntry env op

/-- What an operation does to the entries of the ports. -/
def Maps (before : PreassignState) (request : PreassignRequest) (after : PreassignState) :
    PreassignOp → Prop
  | .create _ _ =>
      ∀ ani meId index, after.Mapped ani meId index ↔
        (ani = request.aniIndication ∧ meId = request.meId ∧ index = request.index) ∨
          before.Mapped ani meId index
  | .update _ _ =>
      before.Mapped request.aniIndication request.meId request.index ∧
        ∀ ani meId index, after.Mapped ani meId index ↔ before.Mapped ani meId index
  | .destroy _ =>
      before.Mapped request.aniIndication request.meId request.index ∧
        ∀ ani meId index, after.Mapped ani meId index ↔
          before.Mapped ani meId index ∧ ¬(ani = request.aniIndication ∧ meId = request.meId)

/-- An operation is carried out: the device has taken all its calls, it succeeds, and changes the
flags that it asks for in the entry of its port and nothing else. -/
structure CarriedOut (before : PreassignState) (env : PreassignEnv) (op : PreassignOp)
    (request : PreassignRequest) (after : PreassignState) : Prop where
  history : after.history = request :: before.history
  asked : request.meId = op.meId ∧ request.filters = op.filters
  success : (before.outcome env op).1 = some ()
  taken : ∀ call ∈ (before.outcome env op).2.calls, env.accepts call = true
  maps : before.Maps request after op
  exception : ∃ mask,
    FlagsFollow op.filters (before.exception request.index).egressExceptionFlagMask mask ∧
      after.exception = Function.update before.exception request.index
        { before.exception request.index with egressExceptionFlagMask := mask }
  redirection : ¬before.ArpSet request.index → after.redirection = before.redirection

/-- What is expected of an event. -/
def PreassignRight (before : PreassignState) (event : PreassignEvent) (after : PreassignState) :
    Prop :=
  after.FlagsRight ∧
    match event with
    | .preassign env op =>
        before.Ignored env op after ∨ ∃ request, before.CarriedOut env op request after
    | _ => after.exception = before.exception

/-- The mapper is in order and the entries show the last requests. -/
structure Sound (s : PreassignState) : Prop where
  wellFormed : s.mapper.WellFormed
  flags : s.FlagsRight

/-! ## Operations -/

theorem exceptIdType_inj {ani other : Bool} :
    exceptIdType ani = exceptIdType other ↔ ani = other := by
  revert ani other
  decide

theorem mapped_iff_added {mappers mapped : Mappers} {request : PreassignRequest}
    (hpairs : ∀ otherType other otherIndex, mapped.Mapped otherType other otherIndex ↔
      (otherType = exceptIdType request.aniIndication ∧ other = request.meId.setWidth 32 ∧
        otherIndex = request.index) ∨ mappers.Mapped otherType other otherIndex)
    (ani : Bool) (meId : BitVec 16) (index : BitVec 32) :
    mapped.Mapped (exceptIdType ani) (meId.setWidth 32) index ↔
      (ani = request.aniIndication ∧ meId = request.meId ∧ index = request.index) ∨
        mappers.Mapped (exceptIdType ani) (meId.setWidth 32) index := by
  rw [hpairs, exceptIdType_inj]
  refine or_congr_left (and_congr_right fun _ => and_congr_left fun _ => ?_)
  exact ⟨meId_inj, fun hsame => hsame ▸ rfl⟩

theorem mapped_iff_removed {mappers removed : Mappers} {own : Bool} {ownId : BitVec 16}
    (hpairs : ∀ otherType other otherIndex, removed.Mapped otherType other otherIndex ↔
      mappers.Mapped otherType other otherIndex ∧
        ¬(otherType = exceptIdType own ∧ other = ownId.setWidth 32))
    (ani : Bool) (meId : BitVec 16) (index : BitVec 32) :
    removed.Mapped (exceptIdType ani) (meId.setWidth 32) index ↔
      mappers.Mapped (exceptIdType ani) (meId.setWidth 32) index ∧
        ¬(ani = own ∧ meId = ownId) := by
  rw [hpairs, exceptIdType_inj]
  refine and_congr_right fun _ => not_congr (and_congr_right fun _ => ?_)
  exact ⟨meId_inj, fun hsame => hsame ▸ rfl⟩

section Operations

variable {s : PreassignState} {env : PreassignEnv} {op : PreassignOp}

/-- How an operation is judged. -/
def Judged (s : PreassignState) (env : PreassignEnv) (op : PreassignOp) : Prop :=
  (s.operate env op).mapper.WellFormed ∧
    (s.Ignored env op (s.operate env op) ∨
      ∃ request, s.CarriedOut env op request (s.operate env op))

/-- An operation that fails and leaves the mapper and the flags. -/
theorem judged_failed (h : s.mapper.WellFormed) {ctx : PreassignCtx}
    (hrun : s.outcome env op = (none, ctx)) (hmapper : ctx.mapper = s.mapper)
    (hexception : ctx.exception = s.exception)
    (hredirection : (∀ index, ¬s.ArpSet index) → ctx.redirection = s.redirection) :
    s.Judged env op := by
  have hcarried : s.carried env op = none := by
    rw [carried, hrun, Option.bind_none]
  constructor
  · change (s.outcome env op).2.mapper.WellFormed
    rw [hrun, hmapper]
    exact h
  · left
    rw [operate, hrun, hcarried]
    exact {
      history := rfl
      mapped := fun ani meId index => by rw [Mapped, hmapper, Mapped]
      exception := hexception
      redirection := hredirection
      error := .inl (by rw [hrun]) }

variable {ani : Bool} {index : BitVec 32} {filters : PreassignFilters} {found : PreassignCtx}

theorem request_of_mapped {mapper : Mappers}
    (hani : (omciApiMacBridgePortIsAni env op.meId s.ctx).1 = some ani) (hwell : mapper.WellFormed)
    (hmapped : mapper.Mapped (exceptIdType ani) (op.meId.setWidth 32) index) :
    s.request env op mapper = some ⟨ani, op.meId, index, op.filters⟩ := by
  have hget := @indexGet_of_mapped { s.ctx with mapper := mapper } hwell _ _ _ hmapped
  rw [request, hani, Option.bind_eq_bind, Option.bind_some, hget]
  rfl

theorem request_of_not_mapped {mapper : Mappers}
    (hani : (omciApiMacBridgePortIsAni env op.meId s.ctx).1 = some ani) (hwell : mapper.WellFormed)
    (hnone : ∀ index, ¬mapper.Mapped (exceptIdType ani) (op.meId.setWidth 32) index) :
    s.request env op mapper = none := by
  rw [request, hani, Option.bind_eq_bind, Option.bind_some]
  cases @indexGet_cases { s.ctx with mapper := mapper } hwell (exceptIdType ani) op.meId with
  | inl hfound =>
      have ⟨index, _, hmapped⟩ := hfound
      exact absurd hmapped (hnone index)
  | inr habsent =>
      rw [habsent.1]
      rfl

/-- An operation that is carried out. -/
theorem judged_carried (ani : Bool) {ctx : PreassignCtx}
    (hrun : s.outcome env op = (some (), ctx)) (hwell : ctx.mapper.WellFormed)
    (hcarried : s.carried env op = some ⟨ani, op.meId, index, op.filters⟩)
    (hmaps : s.Maps ⟨ani, op.meId, index, op.filters⟩ (s.operate env op) op)
    (hupdated : EntryUpdated env index op.filters s.ctx ctx)
    (hredirection : ¬s.ArpSet index → ctx.redirection = s.redirection) : s.Judged env op := by
  constructor
  · change (s.outcome env op).2.mapper.WellFormed
    rw [hrun]
    exact hwell
  · right
    refine ⟨_, ?_, ⟨rfl, rfl⟩, ?_, ?_, hmaps, ?_, ?_⟩
    · change (s.carried env op).toList ++ s.history = _
      rw [hcarried]
      rfl
    · rw [hrun]
    · rw [hrun]
      intro call hcall
      cases hupdated.taken call hcall with
      | inl hnone => cases hnone
      | inr htaken => exact htaken
    · change ∃ mask, _ ∧ (s.outcome env op).2.exception = _
      rw [hrun]
      exact hupdated.exception
    · change _ → (s.outcome env op).2.redirection = _
      rw [hrun]
      exact hredirection

theorem entryUpdated_of_leaves
    {found ctx : PreassignCtx} (hexception : found.exception = s.exception)
    (htaken : Taken env s.ctx found) (h : EntryUpdated env index filters found ctx) :
    EntryUpdated env index filters s.ctx ctx := by
  have ⟨mask, hflags, hsame⟩ := h.exception
  rw [hexception] at hflags hsame
  exact ⟨⟨mask, hflags, hsame⟩, htaken.trans h.taken⟩

theorem judged_of_no_side (op : PreassignOp) (h : s.mapper.WellFormed)
    {f : Bool → PreassignProgram Unit}
    (hop : op.run env = omciApiMacBridgePortIsAni env op.meId >>= f)
    (hani : omciApiMacBridgePortIsAni env op.meId s.ctx = (none, found)) : s.Judged env op := by
  have hleaves := isAni_leaves env op.meId s.ctx
  rw [hani] at hleaves
  have hrun : s.outcome env op = (none, found) := by
    rw [outcome, hop, Program.bind_apply_none hani]
  exact judged_failed h hrun hleaves.1.1 hleaves.1.2 fun _ => hleaves.2

theorem judged_of_no_entry (op : PreassignOp) (h : s.mapper.WellFormed)
    {g : Bool → BitVec 32 → PreassignProgram Unit}
    (hop : op.run env = omciApiMacBridgePortIsAni env op.meId >>= fun ani =>
      indexGet (exceptIdType ani) op.meId >>= g ani)
    (hani : omciApiMacBridgePortIsAni env op.meId s.ctx = (some ani, found))
    (hget : indexGet (exceptIdType ani) op.meId found = (none, found)) : s.Judged env op := by
  have hleaves := isAni_leaves env op.meId s.ctx
  rw [hani] at hleaves
  have hrun : s.outcome env op = (none, found) := by
    rw [outcome, hop, Program.bind_apply hani, Program.bind_apply_none hget]
  exact judged_failed h hrun hleaves.1.1 hleaves.1.2 fun _ => hleaves.2

theorem side_found {meId : BitVec 16}
    (hani : omciApiMacBridgePortIsAni env meId s.ctx = (some ani, found)) :
    found.mapper = s.mapper ∧ found.exception = s.exception ∧
      found.redirection = s.redirection ∧ Taken env s.ctx found := by
  have hleaves := isAni_leaves env meId s.ctx
  rw [hani] at hleaves
  exact ⟨hleaves.1.1, hleaves.1.2, hleaves.2, taken_isAni hani⟩

theorem redirection_of_unset {result : Option Unit × PreassignCtx}
    (hexception : found.exception = s.exception) (hredirection : found.redirection = s.redirection)
    (hupdates : EntryUpdates env index filters found result) (hunset : ¬s.ArpSet index) :
    result.2.redirection = s.redirection := by
  rw [hupdates.redirection (hexception ▸ Bool.eq_false_iff.mpr hunset), hredirection]

theorem judged_update (h : s.mapper.WellFormed) (env : PreassignEnv) (meId : BitVec 16)
    (filters : PreassignFilters) : s.Judged env (.update meId filters) := by
  cases hani : omciApiMacBridgePortIsAni env meId s.ctx with
  | mk side found =>
      cases side with
      | none => exact judged_of_no_side (.update meId filters) h rfl hani
      | some ani =>
          have ⟨hmapper, hexception, hredirection, htaken⟩ := side_found hani
          cases indexGet_cases (hmapper.symm ▸ h) (exceptIdType ani) meId with
          | inr habsent => exact judged_of_no_entry (.update meId filters) h rfl hani habsent.1
          | inl hfound =>
              have ⟨index, hget, hmapped⟩ := hfound
              rw [hmapper] at hmapped
              have hrun : s.outcome env (.update meId filters) =
                  omciApiExceptionConfigTableEntryUpdate env index false filters found := by
                change omciApiMacBridgePortFilterPreassignTableUpdate env meId filters s.ctx = _
                rw [omciApiMacBridgePortFilterPreassignTableUpdate, Program.bind_apply hani,
                  Program.bind_apply hget]
              have hupdates := entryUpdates env index filters found
              generalize omciApiExceptionConfigTableEntryUpdate env index false filters found =
                result at hrun hupdates
              have hunset := redirection_of_unset hexception hredirection hupdates
              have hmapper' := hupdates.mapper.trans hmapper
              cases hupdates.ends with
              | inl hfailed =>
                  exact judged_failed h (hrun.trans (Prod.ext hfailed.1 rfl)) hmapper'
                    (hfailed.2.trans hexception) fun hnone => hunset (hnone index)
              | inr hdone =>
                  have hrun' : s.outcome env (.update meId filters) = (some (), result.2) :=
                    hrun.trans (Prod.ext hdone.1 rfl)
                  refine judged_carried ani hrun' (hmapper'.symm ▸ h) ?_ ⟨hmapped, ?_⟩
                    (entryUpdated_of_leaves hexception htaken hdone.2) hunset
                  · rw [carried, hrun', Option.bind_some]
                    exact request_of_mapped (congrArg Prod.fst hani) h hmapped
                  · intro otherAni otherId otherIndex
                    rw [Mapped, operate, hrun', hmapper']
                    rfl

theorem judged_destroy (h : s.mapper.WellFormed) (env : PreassignEnv) (meId : BitVec 16) :
    s.Judged env (.destroy meId) := by
  cases hani : omciApiMacBridgePortIsAni env meId s.ctx with
  | mk side found =>
      cases side with
      | none => exact judged_of_no_side (.destroy meId) h rfl hani
      | some ani =>
          have ⟨hmapper, hexception, hredirection, htaken⟩ := side_found hani
          cases indexGet_cases (hmapper.symm ▸ h) (exceptIdType ani) meId with
          | inr habsent => exact judged_of_no_entry (.destroy meId) h rfl hani habsent.1
          | inl hfound =>
              have ⟨index, hget, hmapped⟩ := hfound
              rw [hmapper] at hmapped
              have hrun : s.outcome env (.destroy meId) =
                  (omciApiExceptionConfigTableEntryUpdate env index false forwarding >>=
                    fun _ => idRemove (exceptIdType ani) meId) found := by
                change omciApiMacBridgePortFilterPreassignTableDestroy env meId s.ctx = _
                rw [omciApiMacBridgePortFilterPreassignTableDestroy, Program.bind_apply hani,
                  Program.bind_apply hget]
              have hupdates := entryUpdates env index forwarding found
              have hunset := redirection_of_unset hexception hredirection hupdates
              have hmapper' := hupdates.mapper.trans hmapper
              generalize hupdate : omciApiExceptionConfigTableEntryUpdate env index false forwarding
                found = result at hupdates hunset hmapper'
              cases hupdates.ends with
              | inl hfailed =>
                  have hfail := hrun.trans
                    (Program.bind_apply_none (hupdate.trans (Prod.ext hfailed.1 rfl)))
                  exact judged_failed h hfail hmapper' (hfailed.2.trans hexception)
                    fun hnone => hunset (hnone index)
              | inr hdone =>
                  have ⟨removed, hremove, hwell, hpairs⟩ :=
                    idRemove_of_mapped (hmapper'.symm ▸ h) (hmapper'.symm ▸ hmapped)
                  have hgo := hrun.trans (Program.bind_apply (hupdate.trans (Prod.ext hdone.1 rfl)))
                  have hrun' := hgo.trans hremove
                  refine judged_carried ani hrun' hwell ?_ ⟨hmapped, ?_⟩
                    (entryUpdated_of_leaves hexception htaken
                      ⟨hdone.2.exception, hdone.2.taken⟩) hunset
                  · rw [carried, hrun', Option.bind_some]
                    exact request_of_mapped (congrArg Prod.fst hani) h hmapped
                  · rw [hmapper'] at hpairs
                    intro otherAni otherId otherIndex
                    rw [Mapped, operate, hrun']
                    exact mapped_iff_removed hpairs otherAni otherId otherIndex

/-- A creation whose entry is not updated takes the mapping back. -/
theorem judged_taken_back {meId : BitVec 16} {ctx : PreassignCtx}
    (hani : (omciApiMacBridgePortIsAni env meId s.ctx).1 = some ani)
    (hfound : (s.mapper.idMap (exceptIdType ani) (meId.setWidth 32) env.mem).2 = .found index)
    (hwell : ctx.mapper.WellFormed)
    (hfresh : ∀ other, ¬s.mapper.Mapped (exceptIdType ani) other index)
    (hpairs : ∀ otherType other otherIndex, ctx.mapper.Mapped otherType other otherIndex ↔
      (otherType = exceptIdType ani ∧ other = meId.setWidth 32 ∧ otherIndex = index) ∨
        s.mapper.Mapped otherType other otherIndex) (hexception : ctx.exception = s.exception)
    (hredirection : ¬s.ArpSet index → ctx.redirection = s.redirection)
    (hrun : s.outcome env (.create meId filters) = idRemove (exceptIdType ani) meId ctx) :
    s.Judged env (.create meId filters) := by
  have ⟨removed, hremove, hremoved, hleft⟩ :=
    idRemove_of_mapped hwell ((hpairs _ _ _).mpr (.inl ⟨rfl, rfl, rfl⟩))
  rw [hremove] at hrun
  have hnone : ∀ otherIndex, ¬removed.Mapped (exceptIdType ani) (meId.setWidth 32) otherIndex :=
    fun otherIndex hmapped => ((hleft _ _ _).mp hmapped).2 ⟨rfl, rfl⟩
  have hcarried : s.carried env (.create meId filters) = none := by
    rw [carried, Option.bind_eq_none_iff]
    intro _ _
    change s.request env _ (s.outcome env _).2.mapper = none
    rw [hrun]
    exact request_of_not_mapped hani hremoved hnone
  constructor
  · change (s.outcome env _).2.mapper.WellFormed
    rw [hrun]
    exact hremoved
  · left
    rw [operate, hrun, hcarried]
    exact {
      history := rfl
      mapped := by
        intro otherAni otherId otherIndex
        refine (mapped_iff_removed hleft otherAni otherId otherIndex).trans ?_
        rw [hpairs, exceptIdType_inj]
        constructor
        · rintro ⟨⟨hsame, hid, _⟩ | hold, hother⟩
          · exact absurd ⟨hsame, meId_inj hid⟩ hother
          · exact hold
        · intro hold
          refine ⟨.inr hold, ?_⟩
          rintro ⟨rfl, rfl⟩
          exact not_mapped_of_added hwell hfresh hpairs otherIndex hold
      exception := hexception
      redirection := fun hunset => hredirection (hunset index)
      error := .inr ⟨ani, index, hani, hfound⟩ }

theorem judged_create (h : s.mapper.WellFormed) (env : PreassignEnv) (meId : BitVec 16)
    (filters : PreassignFilters) : s.Judged env (.create meId filters) := by
  cases hani : omciApiMacBridgePortIsAni env meId s.ctx with
  | mk side found =>
      cases side with
      | none => exact judged_of_no_side (.create meId filters) h rfl hani
      | some ani =>
          have ⟨hmapper, hexception, hredirection, htaken⟩ := side_found hani
          have hop : s.outcome env (.create meId filters) = _ := Program.bind_apply hani
          cases idMap_cases (hmapper.symm ▸ h) env (exceptIdType ani) meId with
          | inl hrefused =>
              have hrun := hop.trans (Program.bind_apply_none hrefused)
              exact judged_failed h hrun hmapper hexception fun _ => hredirection
          | inr hadded =>
              have ⟨index, mapped, hfound, hmap, hwell, hfresh, hpairs⟩ := hadded
              rw [hmapper] at hfound hfresh hpairs
              have hrun := (hop.trans (Program.bind_apply hmap)).trans (Program.bind_apply rfl)
              have hupdates := entryUpdates env index filters { found with mapper := mapped }
              have hunset := @redirection_of_unset s env index filters { found with mapper := mapped }
                _ hexception hredirection hupdates
              generalize omciApiExceptionConfigTableEntryUpdate env index false filters
                { found with mapper := mapped } = result at hrun hupdates hunset
              have hmapper' : result.2.mapper = mapped := hupdates.mapper
              cases hupdates.ends with
              | inl hfailed =>
                  rw [hfailed.1] at hrun
                  exact judged_taken_back (congrArg Prod.fst hani) hfound (hmapper'.symm ▸ hwell)
                    hfresh (hmapper'.symm ▸ hpairs) (hfailed.2.trans hexception) hunset hrun
              | inr hdone =>
                  rw [hdone.1] at hrun
                  have hrun' : s.outcome env (.create meId filters) = (some (), result.2) := hrun
                  have hown := (hpairs _ _ _).mpr (.inl ⟨rfl, rfl, rfl⟩)
                  refine judged_carried ani hrun' (hmapper'.symm ▸ hwell) ?_ ?_
                    (entryUpdated_of_leaves hexception htaken
                      ⟨hdone.2.exception, hdone.2.taken⟩) hunset
                  · rw [carried, hrun', Option.bind_some]
                    change s.request env _ (s.outcome env _).2.mapper = _
                    rw [hrun', hmapper']
                    exact request_of_mapped (congrArg Prod.fst hani) hwell hown
                  · intro otherAni otherId otherIndex
                    rw [Mapped, operate, hrun', hmapper']
                    exact mapped_iff_added hpairs otherAni otherId otherIndex

theorem judged (h : s.mapper.WellFormed) (env : PreassignEnv) (op : PreassignOp) :
    s.Judged env op := by
  cases op with
  | create meId filters => exact judged_create h env meId filters
  | update meId filters => exact judged_update h env meId filters
  | destroy meId => exact judged_destroy h env meId

end Operations

/-! ## Runs -/

/-- Where the flags of an entry become the operations, the entry shows them. -/
theorem shows_of_follow {row : ExceptionRow} {filters : PreassignFilters} {mask : BitVec 32}
    (h : FlagsFollow filters mask row.egressExceptionFlagMask) : row.Shows filters := by
  intro protocol hprotocol
  have hfollow := h.follow protocol hprotocol
  by_cases harp : protocol.2 = onuGpeExceptionOffsetArp
  · rw [if_pos harp]
    intro hfilter
    rw [Follows] at hfollow
    split at hfollow
    · exact hfollow
    · rw [hfilter] at hfollow
      cases hflag : row.egressExceptionFlagMask.getLsbD protocol.2 with
      | true => rfl
      | false =>
          rw [hflag] at hfollow
          exact absurd hfollow (by decide)
  · rw [if_neg harp]
    rw [Follows, if_neg fun hset => harp hset.1] at hfollow
    exact hfollow

section Histories

variable {before after : PreassignState} {request : PreassignRequest}

theorem lastAt_of_request (h : after.history = request :: before.history) (index : BitVec 32) :
    after.lastAt index = if request.index = index then some request else before.lastAt index := by
  rw [lastAt, h, List.find?_cons, lastAt]
  by_cases hsame : request.index = index
  · rw [if_pos hsame, decide_eq_true hsame]
  · rw [if_neg hsame, decide_eq_false hsame]

theorem lastOf_of_request (h : after.history = request :: before.history) (ani : Bool)
    (meId : BitVec 16) :
    after.lastOf ani meId =
      if request.aniIndication = ani ∧ request.meId = meId then some request
      else before.lastOf ani meId := by
  rw [lastOf, h, List.find?_cons, lastOf]
  by_cases hsame : request.aniIndication = ani ∧ request.meId = meId
  · rw [if_pos hsame, decide_eq_true hsame]
  · rw [if_neg hsame, decide_eq_false hsame]

theorem Maps.among {op : PreassignOp} (hmaps : before.Maps request after op)
    (hbefore : before.mapper.WellFormed) (hafter : after.mapper.WellFormed) :
    ∃ s : PreassignState, s.mapper.WellFormed ∧
      s.Mapped request.aniIndication request.meId request.index ∧
      ∀ ani meId index, after.Mapped ani meId index → s.Mapped ani meId index := by
  cases op with
  | create meId filters =>
      exact ⟨after, hafter, (hmaps _ _ _).mpr (.inl ⟨rfl, rfl, rfl⟩), fun _ _ _ h => h⟩
  | update meId filters =>
      exact ⟨before, hbefore, hmaps.1, fun ani meId index h => (hmaps.2 ani meId index).mp h⟩
  | destroy meId =>
      exact ⟨before, hbefore, hmaps.1, fun ani meId index h => ((hmaps.2 ani meId index).mp h).1⟩

theorem Maps.cases {op : PreassignOp} (hmaps : before.Maps request after op) {ani : Bool}
    {meId : BitVec 16} {index : BitVec 32} (h : after.Mapped ani meId index) :
    (ani = request.aniIndication ∧ meId = request.meId ∧ index = request.index) ∨
      before.Mapped ani meId index := by
  cases op with
  | create _ _ => exact (hmaps ani meId index).mp h
  | update _ _ => exact .inr ((hmaps.2 ani meId index).mp h)
  | destroy _ => exact .inr ((hmaps.2 ani meId index).mp h).1

end Histories

theorem Ignored.flagsRight {before after : PreassignState} {env : PreassignEnv}
    {op : PreassignOp} (h : before.Ignored env op after) (hbefore : before.FlagsRight) :
    after.FlagsRight := by
  intro ani meId index hmapped
  rw [lastAt, lastOf, h.history, h.exception]
  exact hbefore ani meId index ((h.mapped ani meId index).mp hmapped)

/-- An operation that is carried out leaves the flags right. -/
theorem CarriedOut.flagsRight {before after : PreassignState} {env : PreassignEnv}
    {op : PreassignOp} {request : PreassignRequest}
    (h : before.CarriedOut env op request after) (hbefore : before.Sound)
    (hafter : after.mapper.WellFormed) : after.FlagsRight := by
  intro ani meId index hmapped
  have ⟨s, hwell, hown, hamong⟩ := h.maps.among hbefore.wellFormed hafter
  have ⟨mask, hflags, hexception⟩ := h.exception
  rw [lastAt_of_request h.history, lastOf_of_request h.history, hexception]
  by_cases hindex : request.index = index
  · -- The entry of the request: the port is its own, or one of the other side.
    rw [← h.asked.2] at hflags
    rw [if_pos hindex, ← hindex, Function.update_self]
    refine ⟨request, rfl, shows_of_follow hflags, ?_⟩
    by_cases hani : request.aniIndication = ani
    · have hid : meId.setWidth 32 = request.meId.setWidth 32 := by
        have hother := hamong ani meId index hmapped
        rw [← hani, ← hindex] at hother
        exact Mappers.Mapped.id_unique hwell hother hown
      rw [if_pos ⟨hani, (meId_inj hid).symm⟩]
      exact .inl rfl
    · exact .inr hani
  · -- Another entry: it is as it was, and so is the last request for its port.
    rw [if_neg hindex, Function.update_of_ne (Ne.symm hindex)]
    have hother : ¬(request.aniIndication = ani ∧ request.meId = meId) := by
      rintro ⟨rfl, rfl⟩
      have hentry := hamong _ _ _ hmapped
      exact hindex (Mappers.Mapped.index_unique hwell hown hentry)
    rw [if_neg hother]
    cases h.maps.cases hmapped with
    | inl hsame => exact absurd hsame.2.2.symm hindex
    | inr hold => exact hbefore.flags ani meId index hold

theorem exceptIdType_ne (ani : Bool) : exceptIdType ani ≠ MapperIdType.macbridgeportMeidToIdx := by
  cases ani with
  | true => decide
  | false => decide

theorem Sound.of_bridgePort {before : PreassignState} (h : before.Sound) {mapper : Mappers}
    (hwell : mapper.WellFormed)
    (hpairs : ∀ ani id index, mapper.Mapped (exceptIdType ani) id index ↔
      before.mapper.Mapped (exceptIdType ani) id index) : Sound { before with mapper := mapper } where
  wellFormed := hwell
  flags ani meId index hmapped := h.flags ani meId index ((hpairs ani _ index).mp hmapped)

/-- Each event does what is expected of it. -/
theorem Sound.step {before after : PreassignState} {event : PreassignEvent} (h : before.Sound)
    (hstep : before.step event = some after) : before.PreassignRight event after ∧ after.Sound := by
  cases event with
  | preassign env op =>
      have hafter : before.operate env op = after := Option.some.inj hstep
      have ⟨hwell, hjudged⟩ := judged h.wellFormed env op
      rw [hafter] at hwell hjudged
      have hflags : after.FlagsRight := by
        cases hjudged with
        | inl hignored => exact hignored.flagsRight h.flags
        | inr hcarried =>
            have ⟨request, hcarried⟩ := hcarried
            exact hcarried.flagsRight h hwell
      exact ⟨⟨hflags, hjudged⟩, hwell, hflags⟩
  | bridgePortMap meId mem =>
      have hafter := Option.some.inj hstep
      have hsound : after.Sound := by
        rw [← hafter]
        cases Mappers.mapped_idMap_cases h.wellFormed MapperIdType.macbridgeportMeidToIdx
            (meId.setWidth 32) mem with
        | inl hrefused =>
            rw [hrefused.2]
            exact h
        | inr hadded =>
            have ⟨_, index, _, _, hwell, _, _, hpairs⟩ := hadded
            refine h.of_bridgePort hwell fun ani id otherIndex => ?_
            rw [hpairs]
            exact or_iff_right fun hsame => exceptIdType_ne ani hsame.1
      exact ⟨⟨hsound.flags, by rw [← hafter]⟩, hsound⟩
  | bridgePortRemove meId =>
      have hafter := Option.some.inj hstep
      have hsound : after.Sound := by
        rw [← hafter]
        cases Mappers.mapped_idRemove h.wellFormed MapperIdType.macbridgeportMeidToIdx
            (meId.setWidth 32) with
        | inl habsent =>
            rw [habsent.2.1]
            exact h
        | inr hremoved =>
            have ⟨_, hwell, _, hpairs⟩ := hremoved
            refine h.of_bridgePort hwell fun ani id otherIndex => ?_
            rw [hpairs]
            exact and_iff_left fun hsame => exceptIdType_ne ani hsame.1
      exact ⟨⟨hsound.flags, by rw [← hafter]⟩, hsound⟩

theorem sound_init (maxBridgePort : BitVec 32) (exception : BitVec 32 → ExceptionRow)
    (redirection : BitVec 32 → RedirectionRow) :
    (init maxBridgePort exception redirection).Sound where
  wellFormed := Mappers.wellFormed_init maxBridgePort
  flags _ _ _ hmapped := absurd hmapped (Mappers.not_mapped_init maxBridgePort)

/-- In every run each port's entry shows the last request on it, and an operation is carried out
for its own flags alone, or leaves the entries of the ports. -/
theorem preassignRight_run (maxBridgePort : BitVec 32) (exception : BitVec 32 → ExceptionRow)
    (redirection : BitVec 32 → RedirectionRow) (events : List PreassignEvent) :
    Along step PreassignRight (init maxBridgePort exception redirection) events :=
  Along.of_invariant (fun _ _ _ hbefore hstep => hbefore.step hstep)
    (sound_init maxBridgePort exception redirection) events

/-- A device that takes everything, where all bridge ports are at the UNI side. -/
def uniEnv : PreassignEnv where
  accepts _ := true
  tpType _ := 0
  mem := true

def filtering : PreassignFilters :=
  ⟨1, 1, 1, 1, 1, 1, 1, 1, 1, 1⟩

/-- The flag for ARP does not show the last request for a port that forwards after it has
filtered. -/
theorem requests_not_shown :
    ¬∀ events, Along step (fun _ _ after => ∀ ani meId index request,
        after.Mapped ani meId index → after.lastOf ani meId = some request →
          ∀ protocol ∈ request.filters.table, protocol.1 =
            operationOf ((after.exception index).egressExceptionFlagMask.getLsbD protocol.2))
      (init 8 (fun _ => ⟨0, 0⟩) fun _ => ⟨false, 0⟩) events := by
  intro h
  have hrun := h [.bridgePortMap 1 true, .preassign uniEnv (.create 1 filtering),
    .preassign uniEnv (.update 1 forwarding)]
  have hforward : (operationForward, onuGpeExceptionOffsetArp) ∈ forwarding.table := by decide
  have hshown := hrun.2.2.1 false 1 0 ⟨false, 1, 0, forwarding⟩
    ⟨_, rfl, List.mem_singleton.mpr rfl⟩ rfl _ hforward
  exact absurd hshown (by decide)

end PreassignState

end FalconGpon.Api
