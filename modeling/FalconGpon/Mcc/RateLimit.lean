/-
# The rate limit of upstream messages

`mcc_pkt_rate_limit` counts the reports of a port and drops those above the rate of the
operations profile; a message that comes more than a second after the reference time resets the
counter. `RateWindow` is what the counter stands for: the messages since the last reset, and
how many of them were passed. `rlStep_exact_iff` proves for which runs every window passes as
many messages as its limit allows: the message that resets the counter is not counted.
-/

import FalconGpon.Lib.Transition
import FalconGpon.Lib.Upsert
import Mathlib.Data.BitVec
import Mathlib.Data.Int.Notation

namespace FalconGpon.Mcc

open FalconGpon.Lib

/-! ## The rate limiter -/

/-- `struct timespec`. -/
structure Timespec where
  tvSec : Int
  tvNsec : Int
deriving DecidableEq

/-- `mcc_clk_elapsed_ms_get`; the division of C truncates. -/
def mccClkElapsedMsGet (t2 t1 : Timespec) : Int :=
  (t2.tvSec - t1.tvSec) * 1000 + (t2.tvNsec - t1.tvNsec).tdiv 1000000

/-- `enum mcc_rl_type` but for `MCC_RL_TYPE_NA`. -/
inductive MccRlType
  | service
  | port
deriving DecidableEq

/-- `struct mcc_rl_entry`. -/
structure MccRlEntry where
  cvid : BitVec 16
  msgCnt : BitVec 32
  refTs : Timespec
  rate : BitVec 32
deriving DecidableEq

/-- `struct mcc_rl`; the type is `none` for `MCC_RL_TYPE_NA`. -/
structure MccRl where
  type : Option MccRlType
  rlList : List MccRlEntry
deriving DecidableEq

/-- The VLAN ID that an entry is found by. -/
def mccRlCvid (type : Option MccRlType) (cvid : BitVec 16) : Option (BitVec 16) :=
  match type with
  | some .service => some cvid
  | some .port => some 0xFFFF
  | none => none

/-- `mcc_rl_entry_find`. -/
def mccRlEntryFind (rl : MccRl) (cvid : BitVec 16) : Option MccRlEntry :=
  (mccRlCvid rl.type cvid).bind fun cvid => findKey MccRlEntry.cvid cvid rl.rlList

/-- `mcc_rl_entry_create`, but for the list; `memory` tells whether there is any. -/
def mccRlEntryCreate (memory : Bool) (type : Option MccRlType) (cvid : BitVec 16)
    (rate : BitVec 32) (time : Timespec) : Option MccRlEntry :=
  match mccRlCvid type cvid with
  | some cvid => if memory then some ⟨cvid, 0, time, rate⟩ else none
  | none => none

/-- `mcc_rl_delete`. -/
def mccRlDelete (rl : MccRl) : MccRl :=
  if rl.rlList = [] then rl else ⟨none, []⟩

/-- `mcc_rl_type_set`. -/
def mccRlTypeSet (rl : MccRl) (type : Option MccRlType) : MccRl :=
  match type with
  | some type => { rl with type := some type }
  | none => rl

/-- `struct mcc_omci_rl`. -/
structure MccOmciRl where
  type : Option MccRlType
  rate : BitVec 32
deriving DecidableEq

/-- What the managed entities say of a port. -/
inductive MccRlConfig
  /-- An entity or an attribute is missing. -/
  | broken
  /-- There is no subscriber configuration. -/
  | absent
  /-- The upstream IGMP rate of the operations profile. -/
  | usIgmpRate (rate : BitVec 32)
deriving DecidableEq

/-- `mcc_omci_rl_get`. -/
def mccOmciRlGet : MccRlConfig → Option MccOmciRl
  | .broken => none
  | .absent => some ⟨none, 0⟩
  | .usIgmpRate rate => some ⟨some .port, rate⟩

/-- A report, and what its handling meets: the configuration, the time at which a limiter is
created and the time at which the message is counted. -/
structure RlMsg where
  cvid : BitVec 16
  config : MccRlConfig
  memory : Bool
  created : Timespec
  time : Timespec
deriving DecidableEq

/-- What `mcc_pkt_rate_limit` says of a packet. -/
inductive RlVerdict
  | failed
  | passed
  | dropped
deriving DecidableEq

def mccRlElapsed (refTs time : Timespec) : Prop :=
  1000 < mccClkElapsedMsGet time refTs

instance (refTs time : Timespec) : Decidable (mccRlElapsed refTs time) :=
  inferInstanceAs (Decidable (1000 < mccClkElapsedMsGet time refTs))

/-- The second half of `mcc_pkt_rate_limit`: one more message. -/
def mccRlCount (e : MccRlEntry) (time : Timespec) : MccRlEntry × RlVerdict :=
  if e.rate = 0 then
    (e, .passed)
  else
    let e := { e with msgCnt := e.msgCnt + 1 }
    let e := if mccRlElapsed e.refTs time then { e with msgCnt := 0, refTs := time } else e
    (e, if e.rate < e.msgCnt then .dropped else .passed)

/-- Count a message with the entry found or created. -/
def MccRl.count (rl : MccRl) (e : MccRlEntry) (time : Timespec) : MccRl × RlVerdict :=
  let counted := mccRlCount e time
  ({ rl with rlList := upsert MccRlEntry.cvid e.cvid e (fun _ => some counted.1) rl.rlList },
    counted.2)

/-- `mcc_pkt_rate_limit`. -/
def mccPktRateLimit (rl : MccRl) (msg : RlMsg) : MccRl × RlVerdict :=
  match mccRlEntryFind rl msg.cvid with
  | some e => rl.count e msg.time
  | none =>
      match mccOmciRlGet msg.config with
      | none => (rl, .failed)
      | some omciRl =>
          if omciRl.type = none then
            (rl, .passed)
          else
            let rl := mccRlTypeSet rl omciRl.type
            match mccRlEntryCreate msg.memory rl.type msg.cvid omciRl.rate msg.created with
            | none => (rl, .failed)
            | some e => rl.count e msg.time

/-! ## The windows -/

/-- The messages since the limiter was created or reset, the opening one among them. -/
structure RateWindow where
  limit : Nat
  byReset : Bool
  arrived : Nat
  passed : Nat
deriving DecidableEq

/-- One more message. -/
def RateWindow.arrive (w : RateWindow) (verdict : RlVerdict) : RateWindow :=
  { w with
    arrived := w.arrived + 1
    passed := if verdict = .passed then w.passed + 1 else w.passed }

def RateWindow.Exact (w : RateWindow) : Prop :=
  w.limit ≠ 0 → w.passed = min w.limit w.arrived

instance (w : RateWindow) : Decidable w.Exact :=
  inferInstanceAs (Decidable (w.limit ≠ 0 → w.passed = min w.limit w.arrived))

/-- The limiter of a port, and its window. -/
structure RlState where
  rl : MccRl
  window : RateWindow
deriving DecidableEq

def RlState.init : RlState :=
  ⟨⟨none, []⟩, ⟨0, false, 0, 0⟩⟩

/-- Messages, and the reset of the port. -/
inductive RlEvent
  | message (msg : RlMsg)
  | delete
deriving DecidableEq

/-- The window after a message: a new one, if the message has created or reset the limiter. -/
def RateWindow.next (w : RateWindow) (before after : Option MccRlEntry) (created : Timespec)
    (verdict : RlVerdict) : RateWindow :=
  match after with
  | none => w
  | some e =>
      if before.map MccRlEntry.refTs = some e.refTs then w.arrive verdict
      else
        RateWindow.arrive ⟨e.rate.toNat, before.isSome ∨ e.refTs ≠ created, 0, 0⟩ verdict

/-- One event of a port. -/
def rlStep (s : RlState) : RlEvent → Option RlState
  | .message msg =>
      let next := mccPktRateLimit s.rl msg
      some
        { rl := next.1
          window := s.window.next (mccRlEntryFind s.rl msg.cvid)
            (mccRlEntryFind next.1 msg.cvid) msg.created next.2 }
  | .delete => some { s with rl := mccRlDelete s.rl }

/-- A message that is counted in a window: one that a reset has opened gets no more messages
than its limit, the first window of a limiter no more than its counter holds. -/
def CountGuard (w : RateWindow) (e : MccRlEntry) (time : Timespec) : Prop :=
  e.rate ≠ 0 → ¬mccRlElapsed e.refTs time →
    w.arrived < if w.byReset then w.limit else 2 ^ 32 - 1

def RlGuard (s : RlState) : RlEvent → Prop
  | .message msg => ∀ e ∈ mccRlEntryFind s.rl msg.cvid, CountGuard s.window e msg.time
  | .delete => True

/-! ## One message -/

/-- Whether a window stays exact depends on the next verdict. -/
theorem RateWindow.exact_arrive_iff {w : RateWindow} (hlimit : w.limit ≠ 0) (h : w.Exact)
    (verdict : RlVerdict) :
    (w.arrive verdict).Exact ↔ (verdict = .passed ↔ w.arrived < w.limit) := by
  have hpassed := h hlimit
  by_cases hverdict : verdict = .passed
  · simp only [RateWindow.Exact, RateWindow.arrive, hverdict, if_true, true_iff]
    constructor
    · intro hexact
      have := hexact hlimit
      omega
    · intro hlt _
      omega
  · simp only [RateWindow.Exact, RateWindow.arrive, hverdict, if_false, false_iff]
    constructor
    · intro hexact
      have := hexact hlimit
      omega
    · intro hnot _
      omega

/-- The entry counts the messages of the window, but for the one that has reset it. -/
structure RateWindow.Tracks (w : RateWindow) (e : MccRlEntry) : Prop where
  limit : w.limit = e.rate.toNat
  count : e.rate ≠ 0 → w.arrived = e.msgCnt.toNat + if w.byReset then 1 else 0
  bound : e.rate ≠ 0 → w.arrived ≤ if w.byReset then w.limit else 2 ^ 32 - 1

section

variable {e : MccRlEntry} {time : Timespec} {w : RateWindow}

theorem mccClkElapsedMsGet_self (time : Timespec) : mccClkElapsedMsGet time time = 0 := by
  simp [mccClkElapsedMsGet]

theorem toNat_rate_pos (hrate : e.rate ≠ 0) : 0 < e.rate.toNat := by
  apply Nat.pos_of_ne_zero
  exact fun h => hrate (BitVec.eq_of_toNat_eq h)

theorem mccRlCount_unlimited (hrate : e.rate = 0) : mccRlCount e time = (e, .passed) :=
  if_pos hrate

theorem mccRlCount_reset (hrate : e.rate ≠ 0) (helapsed : mccRlElapsed e.refTs time) :
    mccRlCount e time = ({ e with msgCnt := 0, refTs := time }, .passed) := by
  rw [mccRlCount, if_neg hrate]
  dsimp only
  rw [if_pos helapsed]
  simp

theorem mccRlCount_counted (hrate : e.rate ≠ 0) (helapsed : ¬mccRlElapsed e.refTs time) :
    mccRlCount e time =
      ({ e with msgCnt := e.msgCnt + 1 },
        if e.rate < e.msgCnt + 1 then .dropped else .passed) := by
  rw [mccRlCount, if_neg hrate]
  dsimp only
  rw [if_neg helapsed]

theorem exact_of_reset (hrate : e.rate ≠ 0) (time : Timespec) :
    RateWindow.Tracks (RateWindow.arrive ⟨e.rate.toNat, true, 0, 0⟩ .passed)
        { e with msgCnt := 0, refTs := time } ∧
      (RateWindow.arrive ⟨e.rate.toNat, true, 0, 0⟩ .passed).Exact := by
  have hpos := toNat_rate_pos hrate
  constructor
  · exact ⟨rfl, fun _ => rfl, fun _ => hpos⟩
  · intro _
    exact (Nat.min_eq_right hpos).symm

theorem toNat_msgCnt_add_one : (e.msgCnt + 1).toNat = (e.msgCnt.toNat + 1) % 2 ^ 32 := by
  rw [BitVec.toNat_add]
  rfl

/-- One more message in a window keeps it exact under the guard only. -/
theorem exact_counted_iff (hrate : e.rate ≠ 0) (htracks : w.Tracks e) (hexact : w.Exact) :
    (w.arrive (if e.rate < e.msgCnt + 1 then .dropped else .passed)).Exact ↔
      w.arrived < if w.byReset then w.limit else 2 ^ 32 - 1 := by
  have hlimit : w.limit ≠ 0 := by
    rw [htracks.limit]
    exact (toNat_rate_pos hrate).ne'
  have hverdict : (if e.rate < e.msgCnt + 1 then RlVerdict.dropped else .passed) = .passed ↔
      (e.msgCnt.toNat + 1) % 2 ^ 32 ≤ w.limit := by
    rw [htracks.limit, ← toNat_msgCnt_add_one, ← Nat.not_lt, ← BitVec.lt_def]
    simp
  have hcount := htracks.count hrate
  have hbound := htracks.bound hrate
  have hrateLt := htracks.limit ▸ e.rate.isLt
  rw [RateWindow.exact_arrive_iff hlimit hexact, hverdict]
  cases hreset : w.byReset with
  | true =>
      -- the counter is one behind, so nothing is dropped at the limit
      rw [hreset, if_pos rfl] at hcount hbound
      rw [if_pos rfl]
      omega
  | false =>
      rw [hreset, if_neg Bool.false_ne_true] at hcount hbound
      rw [if_neg Bool.false_ne_true]
      omega

/-- The counter follows the window under the guard. -/
theorem tracks_counted (htracks : w.Tracks e) (verdict : RlVerdict)
    (hguard : e.rate ≠ 0 → w.arrived < if w.byReset then w.limit else 2 ^ 32 - 1) :
    (w.arrive verdict).Tracks { e with msgCnt := e.msgCnt + 1 } := by
  constructor
  case limit => exact htracks.limit
  case count =>
      intro hrate
      have hcount := htracks.count hrate
      have hlt := hguard hrate
      have hrateLt := htracks.limit ▸ e.rate.isLt
      change w.arrived + 1 = (e.msgCnt + 1).toNat + if w.byReset then 1 else 0
      rw [toNat_msgCnt_add_one]
      cases hreset : w.byReset with
      | true =>
          rw [hreset, if_pos rfl] at hcount hlt
          rw [if_pos rfl]
          omega
      | false =>
          rw [hreset, if_neg Bool.false_ne_true] at hcount hlt
          rw [if_neg Bool.false_ne_true]
          omega
  case bound =>
      intro hrate
      exact hguard hrate

/-- A message that finds an entry. -/
theorem next_found (time created : Timespec) (htracks : w.Tracks e) (hexact : w.Exact) :
    ((w.next (some e) (some (mccRlCount e time).1) created (mccRlCount e time).2).Exact ↔
        CountGuard w e time) ∧ (CountGuard w e time →
        (w.next (some e) (some (mccRlCount e time).1) created (mccRlCount e time).2).Tracks
          (mccRlCount e time).1) := by
  by_cases hrate : e.rate = 0
  · have hfree : CountGuard w e time := fun hne => absurd hrate hne
    have hlimit : w.limit = 0 := by
      rw [htracks.limit, hrate]
      rfl
    rw [mccRlCount_unlimited hrate, RateWindow.next, Option.map_some, if_pos rfl]
    refine ⟨iff_of_true (fun hne => absurd hlimit hne) hfree, fun _ => ?_⟩
    exact ⟨htracks.limit, fun hne => absurd hrate hne, fun hne => absurd hrate hne⟩
  · by_cases helapsed : mccRlElapsed e.refTs time
    · have hfree : CountGuard w e time := fun _ hnot => absurd helapsed hnot
      have hlater : e.refTs ≠ time := by
        intro hsame
        rw [mccRlElapsed, hsame, mccClkElapsedMsGet_self] at helapsed
        omega
      have hnew : ¬Option.map MccRlEntry.refTs (some e) = some time :=
        fun h => hlater (Option.some.inj h)
      rw [mccRlCount_reset hrate helapsed, RateWindow.next, if_neg hnew]
      obtain ⟨hcounts, hkept⟩ := exact_of_reset hrate time
      exact ⟨iff_of_true hkept hfree, fun _ => hcounts⟩
    · rw [mccRlCount_counted hrate helapsed, RateWindow.next, Option.map_some, if_pos rfl]
      constructor
      · rw [exact_counted_iff hrate htracks hexact, CountGuard]
        exact ⟨fun h _ _ => h, fun h => h hrate helapsed⟩
      · intro hguard
        exact tracks_counted htracks _ fun hne => hguard hne helapsed

/-- A message that creates an entry. -/
theorem next_created (w : RateWindow) (time : Timespec) (cvid : BitVec 16) (rate : BitVec 32)
    (created : Timespec) : (w.next none (some (mccRlCount ⟨cvid, 0, created, rate⟩ time).1) created
        (mccRlCount ⟨cvid, 0, created, rate⟩ time).2).Exact ∧
      (w.next none (some (mccRlCount ⟨cvid, 0, created, rate⟩ time).1) created
        (mccRlCount ⟨cvid, 0, created, rate⟩ time).2).Tracks
          (mccRlCount ⟨cvid, 0, created, rate⟩ time).1 := by
  rw [RateWindow.next, Option.map_none, if_neg (Option.some_ne_none _).symm]
  by_cases hrate : rate = 0
  · rw [mccRlCount_unlimited hrate]
    constructor
    · intro hne
      exact absurd (congrArg BitVec.toNat hrate) hne
    · exact ⟨rfl, fun hne => absurd hrate hne, fun hne => absurd hrate hne⟩
  · have hentry : (⟨cvid, 0, created, rate⟩ : MccRlEntry).rate ≠ 0 := hrate
    have hpos : 0 < rate.toNat := toNat_rate_pos hentry
    by_cases helapsed : mccRlElapsed created time
    · have hlater : time ≠ created := by
        intro hsame
        rw [mccRlElapsed, hsame, mccClkElapsedMsGet_self] at helapsed
        omega
      obtain ⟨hcounts, hkept⟩ := exact_of_reset hentry time
      rw [mccRlCount_reset hentry helapsed]
      simp only [Option.isSome_none, Bool.false_eq_true, false_or, hlater, ne_eq,
        not_false_eq_true, decide_true]
      exact ⟨hkept, hcounts⟩
    · have hpassed : ¬rate < 0 + 1 := by
        rw [BitVec.lt_def]
        change ¬rate.toNat < 1
        omega
      rw [mccRlCount_counted hentry helapsed]
      simp only [Option.isSome_none, Bool.false_eq_true, false_or, ne_eq, not_true_eq_false,
        decide_false, hpassed, if_false]
      have hfirst : 1 ≤ 2 ^ 32 - 1 := by decide
      refine ⟨?_, rfl, fun _ => rfl, fun _ => hfirst⟩
      intro _
      exact (Nat.min_eq_right hpos).symm

end

/-! ## Runs of messages -/

/-- The limiter counts for the whole port, and its window is exact. -/
structure RlInv (s : RlState) : Prop where
  type : s.rl.type ≠ some .service
  untyped : s.rl.type = none → s.rl.rlList = []
  tracks : ∀ e ∈ findKey MccRlEntry.cvid 0xFFFF s.rl.rlList, s.window.Tracks e
  exact : s.window.Exact

section

variable {s : RlState} {msg : RlMsg}

theorem RlInv.mccRlEntryFind (hinv : RlInv s) (cvid : BitVec 16) :
    mccRlEntryFind s.rl cvid = findKey MccRlEntry.cvid 0xFFFF s.rl.rlList := by
  cases htype : s.rl.type with
  | none => simp [FalconGpon.Mcc.mccRlEntryFind, mccRlCvid, htype, hinv.untyped htype, findKey]
  | some type =>
      cases type with
      | service => exact absurd htype hinv.type
      | port => simp [FalconGpon.Mcc.mccRlEntryFind, mccRlCvid, htype]

theorem mccRlCount_cvid (e : MccRlEntry) (time : Timespec) :
    (mccRlCount e time).1.cvid = e.cvid := by
  by_cases hrate : e.rate = 0
  · rw [mccRlCount_unlimited hrate]
  · by_cases helapsed : mccRlElapsed e.refTs time
    · rw [mccRlCount_reset hrate helapsed]
    · rw [mccRlCount_counted hrate helapsed]

theorem findKey_count (rl : MccRl) {e : MccRlEntry} (time : Timespec) :
    findKey MccRlEntry.cvid e.cvid (rl.count e time).1.rlList = some (mccRlCount e time).1 :=
  findKey_upsert rfl (mccRlCount_cvid e time)

/-- A message that an entry counts, found or created. -/
theorem rlStep_count {rl : MccRl} {e : MccRlEntry}
    (hrl : mccPktRateLimit s.rl msg = rl.count e msg.time) (htype : rl.type = some .port)
    (hcvid : e.cvid = 0xFFFF) {guard : Prop} {w : RateWindow}
    (hw : w = s.window.next (mccRlEntryFind s.rl msg.cvid) (some (mccRlCount e msg.time).1)
      msg.created (mccRlCount e msg.time).2)
    (hexact : w.Exact ↔ guard) (htracks : guard → w.Tracks (mccRlCount e msg.time).1) :
    ∃ after, rlStep s (.message msg) = some after ∧ (after.window.Exact ↔ guard) ∧
      (guard → RlInv after) := by
  have hfound : findKey MccRlEntry.cvid 0xFFFF (rl.count e msg.time).1.rlList =
      some (mccRlCount e msg.time).1 := hcvid ▸ findKey_count rl msg.time
  have hfind : mccRlEntryFind (rl.count e msg.time).1 msg.cvid =
      some (mccRlCount e msg.time).1 := by
    rw [mccRlEntryFind, MccRl.count, htype]
    exact hfound
  have hwindow : s.window.next (mccRlEntryFind s.rl msg.cvid)
      (mccRlEntryFind (mccPktRateLimit s.rl msg).1 msg.cvid) msg.created
      (mccPktRateLimit s.rl msg).2 = w := by
    rw [hrl, hfind, hw]
    rfl
  refine ⟨⟨(rl.count e msg.time).1, w⟩, by rw [rlStep, hwindow, hrl], hexact, ?_⟩
  intro hguard
  constructor
  case type => exact fun hservice => nomatch htype.symm.trans hservice
  case untyped => exact fun hnone => nomatch htype.symm.trans hnone
  case tracks =>
      intro e' he'
      rw [hfound, Option.mem_some_iff] at he'
      exact he' ▸ htracks hguard
  case exact => exact hexact.mpr hguard

/-- A message that no entry counts. -/
theorem rlStep_unlimited (hinv : RlInv s) (hnone : mccRlEntryFind s.rl msg.cvid = none)
    {rl : MccRl} {verdict : RlVerdict} (hrl : mccPktRateLimit s.rl msg = (rl, verdict))
    (hlist : rl.rlList = s.rl.rlList) (htype : rl.type = s.rl.type ∨ rl.type = some .port) :
    ∃ after, rlStep s (.message msg) = some after ∧ RlInv after := by
  have hempty : findKey MccRlEntry.cvid 0xFFFF rl.rlList = none := by
    rw [hlist, ← hinv.mccRlEntryFind msg.cvid, hnone]
  have hafter : RlInv ⟨rl, s.window⟩ := by
    constructor
    case type =>
        intro hservice
        refine hinv.type (htype.elim (fun h => h.symm.trans hservice) fun h => ?_)
        exact nomatch h.symm.trans hservice
    case untyped =>
        intro huntyped
        rw [hlist]
        refine hinv.untyped (htype.elim (fun h => h.symm.trans huntyped) fun h => ?_)
        exact nomatch h.symm.trans huntyped
    case tracks =>
        intro e he
        rw [hempty] at he
        cases he
    case exact => exact hinv.exact
  refine ⟨⟨rl, s.window⟩, ?_, hafter⟩
  have hfind : mccRlEntryFind rl msg.cvid = none := by
    have hsame := hafter.mccRlEntryFind msg.cvid
    exact hsame.trans hempty
  rw [rlStep, hrl, hfind]
  rfl

/-- One event keeps the window exact under the guard only. -/
theorem rlStep_spec (hinv : RlInv s) (event : RlEvent) :
    ∃ after, rlStep s event = some after ∧ (after.window.Exact ↔ RlGuard s event) ∧
      (RlGuard s event → RlInv after) := by
  cases event with
  | delete =>
      refine ⟨_, rfl, iff_of_true hinv.exact trivial, fun _ => ?_⟩
      rw [mccRlDelete]
      split
      · exact hinv
      · exact ⟨nofun, fun _ => rfl, nofun, hinv.exact⟩
  | message msg =>
      cases hfind : mccRlEntryFind s.rl msg.cvid with
      | some e =>
          have hkey := (hinv.mccRlEntryFind msg.cvid).symm.trans hfind
          have hport : s.rl.type = some .port := by
            cases htype : s.rl.type with
            | none =>
                rw [hinv.untyped htype] at hkey
                cases hkey
            | some type =>
                cases type with
                | service => exact absurd htype hinv.type
                | port => rfl
          have hrl : mccPktRateLimit s.rl msg = s.rl.count e msg.time := by
            rw [mccPktRateLimit, hfind]
          obtain ⟨hexact, htracks⟩ := next_found msg.time msg.created
            (hinv.tracks e hkey) hinv.exact
          have hguard : RlGuard s (.message msg) ↔ CountGuard s.window e msg.time := by
            rw [RlGuard, hfind]
            simp
          rw [hguard]
          exact rlStep_count hrl hport (key_findKey hkey) (by rw [hfind]) hexact htracks
      | none =>
          have hguard : RlGuard s (.message msg) := by
            rw [RlGuard, hfind]
            exact nofun
          have hkept : ∀ rl verdict, mccPktRateLimit s.rl msg = (rl, verdict) →
              rl.rlList = s.rl.rlList → rl.type = s.rl.type ∨ rl.type = some .port →
              ∃ after, rlStep s (.message msg) = some after ∧
                (after.window.Exact ↔ RlGuard s (.message msg)) ∧
                (RlGuard s (.message msg) → RlInv after) := by
            intro rl verdict hrl hlist htype
            obtain ⟨after, hstep, hafter⟩ := rlStep_unlimited hinv hfind hrl hlist htype
            exact ⟨after, hstep, iff_of_true hafter.exact hguard, fun _ => hafter⟩
          cases hconfig : msg.config with
          | broken => exact hkept s.rl .failed (by simp [mccPktRateLimit, hfind, hconfig,
              mccOmciRlGet]) rfl (.inl rfl)
          | absent => exact hkept s.rl .passed (by simp [mccPktRateLimit, hfind, hconfig,
              mccOmciRlGet]) rfl (.inl rfl)
          | usIgmpRate rate =>
              cases hmemory : msg.memory with
              | false => exact hkept ⟨some .port, s.rl.rlList⟩ .failed (by simp [mccPktRateLimit,
                  hfind, hconfig, mccOmciRlGet, mccRlTypeSet, mccRlEntryCreate, mccRlCvid,
                  hmemory]) rfl (.inr rfl)
              | true =>
                  have hrl : mccPktRateLimit s.rl msg = MccRl.count ⟨some .port, s.rl.rlList⟩
                      ⟨0xFFFF, 0, msg.created, rate⟩ msg.time := by
                    simp [mccPktRateLimit, hfind, hconfig, mccOmciRlGet, mccRlTypeSet,
                      mccRlEntryCreate, mccRlCvid, hmemory]
                  obtain ⟨hexact, htracks⟩ := next_created s.window msg.time
                    0xFFFF rate msg.created
                  exact rlStep_count hrl rfl rfl (by rw [hfind]) (iff_of_true hexact hguard)
                    fun _ => htracks

end

/-- Every window of a run passes what its limit allows exactly if every message meets the
guard. -/
theorem rlStep_exact_iff (events : List RlEvent) :
    Along rlStep (fun _ _ after => after.window.Exact) .init events ↔
      Along rlStep (fun before event _ => RlGuard before event) .init events := by
  have hinit : RlInv .init := ⟨nofun, fun _ => rfl, nofun, fun hne => absurd rfl hne⟩
  refine along_iff_guard (fun before event after hinv hnext => ?_) hinit events
  obtain ⟨next, hstep, hexact, hkept⟩ := rlStep_spec hinv event
  obtain rfl : next = after := Option.some.inj (hstep.symm.trans hnext)
  exact ⟨hexact, hkept⟩

/-- With a limit of one message per second, the second window passes two. -/
theorem rlStep_not_exact :
    ¬Along rlStep (fun _ _ after => after.window.Exact) .init
      [.message ⟨100, .usIgmpRate 1, true, ⟨10, 0⟩, ⟨10, 0⟩⟩,
        .message ⟨100, .usIgmpRate 1, true, ⟨12, 0⟩, ⟨12, 0⟩⟩,
        .message ⟨100, .usIgmpRate 1, true, ⟨12, 1000000⟩, ⟨12, 1000000⟩⟩] := by
  decide

end FalconGpon.Mcc
