/-
# What the counters of a PM entity count

The hardware counts events; each reading shows the count modulo the number of values of
the attribute. Over any run of polls, GETs and interval ends, the current attribute is to
show what was counted in the interval so far and the history attribute what was counted in
the last completed one, both up to the largest value (`CountersExact`).

`countersExact_iff`: they do, as long as no counter wraps around between two of its
readings, exactly if the hardware counters are at zero when the entity is created. The
absolute data of a new entity is cleared instead of read, so the first reading counts from
zero.
-/

import FalconGpon.Lib.Counter
import FalconGpon.Lib.Transition
import FalconGpon.Omci.Pm

namespace FalconGpon.Omci

open FalconGpon.Lib

variable {ω : Type}

/-! ## Attribute values as numbers -/

def MeClass.values (cls : MeClass ω) (attr : Attr) : Nat := 256 ^ (cls.attrs attr).size

def IsCounterSize (size : Nat) : Prop := size = 1 ∨ size = 2 ∨ size = 4

theorem toNat_append_byte {n : Nat} (x : BitVec n) (y : Byte) :
    (x ++ y).toNat = 256 * x.toNat + y.toNat := by
  have hlt : y.toNat < 2 ^ 8 := y.isLt
  rw [BitVec.toNat_append, ← Nat.shiftLeft_add_eq_or_of_lt hlt, Nat.shiftLeft_eq]
  omega

variable {size : Nat}

theorem length_attrOctets (hsize : IsCounterSize size) (val : BitVec 64) :
    (attrOctets size val).length = size := by
  rcases hsize with rfl | rfl | rfl <;> rfl

theorem attrDataGet_attrDataSet (data : Buffer) (off : Nat) {val : BitVec 64}
    (hsize : IsCounterSize size) (hval : val.toNat < 256 ^ size) :
    attrDataGet (attrDataSet data off size val) off size = val := by
  apply BitVec.eq_of_toNat_eq
  rcases hsize with rfl | rfl | rfl
  · simp [attrDataGet, attrDataSet, attrOctets, patch]
    omega
  · simp [attrDataGet, attrDataSet, attrOctets, patch, toNat_append_byte,
      Nat.shiftRight_eq_div_pow]
    omega
  · simp [attrDataGet, attrDataSet, attrOctets, patch, word32, toNat_append_byte,
      Nat.shiftRight_eq_div_pow]
    omega

theorem attrDataGet_congr {data data' : Buffer} {off : Nat}
    (h : ∀ i, off ≤ i → i < off + size → data i = data' i) :
    attrDataGet data off size = attrDataGet data' off size := by
  rw [attrDataGet.eq_def, attrDataGet.eq_def]
  split
  · rw [h off (by omega) (by omega)]
  · rw [h off (by omega) (by omega), h (off + 1) (by omega) (by omega)]
  · rw [word32, word32, h off (by omega) (by omega), h (off + 1) (by omega) (by omega),
      h (off + 2) (by omega) (by omega), h (off + 3) (by omega) (by omega)]
  · rfl

theorem attrDataGet_attrDataSet_of_apart (data : Buffer) {off off' size' : Nat}
    (hsize : IsCounterSize size') (val : BitVec 64) (h : off + size ≤ off' ∨ off' + size' ≤ off) :
    attrDataGet (attrDataSet data off' size' val) off size = attrDataGet data off size := by
  apply attrDataGet_congr
  intro i hi hi'
  rw [attrDataSet]
  rcases h with h | h
  · exact patch_of_lt (by omega)
  · apply patch_of_le
    rw [length_attrOctets hsize]
    omega

theorem toNat_attrDataGet_lt (data : Buffer) (off : Nat)
    (hsize : IsCounterSize size) : (attrDataGet data off size).toNat < 256 ^ size := by
  rcases hsize with rfl | rfl | rfl
  · simp only [attrDataGet, BitVec.toNat_setWidth]
    have hlt := (data off).isLt
    omega
  · simp only [attrDataGet, BitVec.toNat_setWidth]
    have hlt := (data off ++ data (off + 1)).isLt
    omega
  · simp only [attrDataGet, BitVec.toNat_setWidth]
    have hlt := (word32 data off).isLt
    omega

theorem attrDataGet_zero (off size : Nat) : attrDataGet (fun _ => 0) off size = 0 := by
  rw [attrDataGet.eq_def]
  split
  · rfl
  · rfl
  · simp [word32]
  · rfl

/-- `attr_sub` is the difference of two readings of a wrapping counter. -/
theorem toNat_attrSub {lhs rhs : BitVec 64} (hsize : IsCounterSize size)
    (hlhs : lhs.toNat < 256 ^ size) (hrhs : rhs.toNat < 256 ^ size) :
    (attrSub lhs rhs size).toNat = wrapSub (256 ^ size) lhs.toNat rhs.toNat := by
  rw [wrapSub]
  rcases hsize with rfl | rfl | rfl
  all_goals
    simp only [attrSub, BitVec.lt_def, BitVec.toNat_setWidth]
    split <;> bv_omega

/-- `attr_add` saturates. -/
theorem toNat_attrAdd {lhs rhs : BitVec 64} (hsize : IsCounterSize size)
    (hlhs : lhs.toNat < 256 ^ size) (hrhs : rhs.toNat < 256 ^ size) :
    (attrAdd lhs rhs size).toNat = satAdd (256 ^ size) lhs.toNat rhs.toNat := by
  rw [satAdd]
  rcases hsize with rfl | rfl | rfl
  all_goals
    simp only [attrAdd, BitVec.lt_def, BitVec.toNat_setWidth, BitVec.toNat_add]
    split <;> bv_omega

/-! ## What updating the counters does -/

theorem MeClass.values_pos (cls : MeClass ω) (attr : Attr) : 0 < cls.values attr :=
  Nat.pow_pos (by decide)

def MeClass.IsCounter (cls : MeClass ω) (attr : Attr) : Prop :=
  attr ∈ pmCounters ∧ cls.isMeAttrExist attr = true

section Update

variable {cls : MeClass ω} (hlayout : PmLayout cls)
include hlayout

variable {attr : Attr}

theorem PmLayout.isCounterSize (hattr : cls.IsCounter attr) :
    IsCounterSize (cls.attrs attr).size := hlayout.size attr hattr.1 hattr.2

theorem PmLayout.attrData_lt (data : Buffer) (hattr : cls.IsCounter attr) :
    (cls.attrData data attr).toNat < cls.values attr :=
  toNat_attrDataGet_lt data _ (hlayout.isCounterSize hattr)

theorem PmLayout.attrData_attrDataSet (data : Buffer) {attr other : Attr} {val : BitVec 64}
    (hattr : cls.IsCounter attr) (hother : cls.IsCounter other)
    (hval : val.toNat < cls.values other) :
    cls.attrData (attrDataSet data (cls.attrs other).offset (cls.attrs other).size val) attr =
      if attr = other then val else cls.attrData data attr := by
  split
  · rename_i heq
    subst heq
    exact attrDataGet_attrDataSet data _ (hlayout.isCounterSize hattr) hval
  · rename_i hne
    exact attrDataGet_attrDataSet_of_apart data (hlayout.isCounterSize hother) val
      (hlayout.apart attr hattr.1 hattr.2 other hother.1 hother.2 hne)

theorem PmLayout.attrDataSet_header (data : Buffer) (val : BitVec 64)
    (hattr : cls.IsCounter attr) {i : Nat} (hi : i < pmMeDataSize) :
    attrDataSet data (cls.attrs attr).offset (cls.attrs attr).size val i = data i := by
  have hwithin := (hlayout.within attr hattr.1 hattr.2).1
  exact patch_of_lt (by omega)

/-- The new value of a counter. -/
def counterSum (cls : MeClass ω) (absData oldData : Buffer) (attr : Attr) (sum : Nat) : Nat :=
  satAdd (cls.values attr) sum
    (wrapSub (cls.values attr) (cls.attrData absData attr).toNat
      (cls.attrData oldData attr).toNat)

/-- One step of the loop changes one counter. -/
theorem PmLayout.attrData_counterUpdate (absData oldData curData : Buffer) {attr other : Attr}
    (hattr : cls.IsCounter attr) (hother : other ∈ pmCounters) :
    (cls.attrData (counterUpdate cls absData oldData curData other) attr).toNat =
      if attr = other then counterSum cls absData oldData attr (cls.attrData curData attr).toNat
      else (cls.attrData curData attr).toNat := by
  rw [counterUpdate]
  by_cases hexist : cls.isMeAttrExist other = true
  · have hcounter : cls.IsCounter other := ⟨hother, hexist⟩
    have hsize := hlayout.isCounterSize hcounter
    have hdiff := toNat_attrSub hsize (hlayout.attrData_lt absData hcounter)
      (hlayout.attrData_lt oldData hcounter)
    have hdiff_lt : (attrSub (cls.attrData absData other) (cls.attrData oldData other)
        (cls.attrs other).size).toNat < cls.values other := by
      rw [hdiff]
      exact Nat.mod_lt _ (cls.values_pos other)
    have hsum := toNat_attrAdd hsize (hlayout.attrData_lt curData hcounter) hdiff_lt
    rw [if_pos hexist, hlayout.attrData_attrDataSet curData hattr hcounter]
    · split
      · rename_i heq
        subst heq
        rw [hsum, hdiff]
        rfl
      · rfl
    · rw [hsum, satAdd]
      have hpos := cls.values_pos other
      rw [MeClass.values] at hpos ⊢
      omega
  · rw [if_neg hexist]
    split
    · rename_i heq
      exact absurd (heq ▸ hattr.2) hexist
    · rfl

end Update

/-- A loop whose steps each change one counter changes every counter of its list once. -/
theorem attrData_foldl {cls : MeClass ω} {step : Buffer → Attr → Buffer} {change : Nat → Nat}
    {attrs : List Attr} (hnodup : attrs.Nodup)
    (hstep : ∀ data, ∀ other ∈ attrs, (cls.attrData (step data other) attr).toNat =
      if attr = other then change (cls.attrData data attr).toNat
      else (cls.attrData data attr).toNat) (data : Buffer) :
    (cls.attrData (attrs.foldl step data) attr).toNat =
      if attr ∈ attrs then change (cls.attrData data attr).toNat
      else (cls.attrData data attr).toNat := by
  induction attrs generalizing data with
  | nil => simp
  | cons other attrs ih =>
      obtain ⟨hother, hnodup⟩ := List.nodup_cons.mp hnodup
      have hhead := hstep data other List.mem_cons_self
      rw [List.foldl_cons,
        ih hnodup fun data other hmem => hstep data other (List.mem_cons_of_mem _ hmem), hhead]
      by_cases heq : attr = other
      · subst heq
        rw [if_neg hother, if_pos rfl, if_pos List.mem_cons_self]
      · simp only [heq, if_false, List.mem_cons, false_or]

theorem nodup_pmCounters : pmCounters.Nodup := by decide

/-- `counters_update` adds the difference of the absolute data to every counter. -/
theorem PmLayout.attrData_counters {cls : MeClass ω} (hlayout : PmLayout cls)
    (absData oldData curData : Buffer) (hattr : cls.IsCounter attr) :
    (cls.attrData (pmCounters.foldl (counterUpdate cls absData oldData) curData) attr).toNat =
      counterSum cls absData oldData attr (cls.attrData curData attr).toNat := by
  rw [attrData_foldl nodup_pmCounters fun data other hother =>
    hlayout.attrData_counterUpdate absData oldData data hattr hother]
  rw [if_pos hattr.1]

/-! ## The three buffers -/

/-- The interval pointers refer to three buffers. -/
structure MeData.Apart (me : MeData) : Prop where
  hist : me.curr ≠ me.hist
  abs : me.curr ≠ me.abs
  histAbs : me.hist ≠ me.abs

theorem meThrCheck_toMeData (cls : PmClass ω) (me : PmMe) :
    (meThrCheck cls me).1.toMeData = me.toMeData := by
  rw [meThrCheck]
  split
  · dsimp only
    split <;> rfl
  · rfl

/-- What `pm_me_counters_get` does to the buffers. -/
structure CountersTaken (cls : PmClass ω) (countersGet : Buffer → Buffer) (me me' : MeData) :
    Prop where
  curr : me'.curr = me.curr
  hist : me'.hist = me.hist
  abs : me'.abs = me.abs
  histData : me'.buffer me.hist = me.buffer me.hist
  absData : me'.buffer me.abs =
    if cls.countersGet.isSome then countersGet (me.buffer me.abs) else me.buffer me.abs
  currData : me'.buffer me.curr =
    if cls.countersGet.isSome then
      pmCounters.foldl
        (counterUpdate cls.toMeClass (countersGet (me.buffer me.abs)) (me.buffer me.abs))
        (me.buffer me.curr)
    else me.buffer me.curr

theorem countersRefresh_taken (cls : PmClass ω) (interval : OmciPmInterval)
    (countersGet : Buffer → Buffer) {me : PmMe} (hapart : me.Apart) :
    CountersTaken cls countersGet me.toMeData
      (me.countersRefresh cls interval countersGet).toMeData := by
  rw [PmMe.countersRefresh]
  split
  · rename_i hsome
    constructor <;>
      simp [hsome, PmMe.intervalSet, PmMe.countersGet, countersUpdate, MeData.interval,
        hapart.hist.symm, hapart.abs, hapart.abs.symm, hapart.histAbs]
  · rename_i hnone
    constructor <;> simp [hnone]

theorem pmMeCountersGet_taken (cls : PmClass ω) (interval : OmciPmInterval)
    (countersGet : Buffer → Buffer) {me : PmMe} (hapart : me.Apart) :
    CountersTaken cls countersGet me.toMeData
      (pmMeCountersGet cls interval countersGet me).1.toMeData := by
  have htaken := countersRefresh_taken cls interval countersGet hapart
  rw [pmMeCountersGet]
  split
  · rw [meThrCheck_toMeData]
    exact htaken
  · exact htaken

/-! ## Runs -/

def MeClass.reading (cls : MeClass ω) (counted : Attr → Nat) (attr : Attr) : Nat :=
  counted attr % cls.values attr

/-- A `counters_get` handler that refreshes some of the attributes. -/
def countersRead (cls : MeClass ω) (counted : Attr → Nat) (fresh : Attr → Bool)
    (data : Buffer) : Buffer :=
  pmCounters.foldl
    (fun data attr =>
      if cls.isMeAttrExist attr && fresh attr then
        attrDataSet data (cls.attrs attr).offset (cls.attrs attr).size
          (BitVec.ofNat 64 (cls.reading counted attr))
      else data)
    data

/-- A PM entity together with the hardware. -/
structure CounterRun where
  me : PmMe
  /-- How often the hardware has counted. -/
  counted : Attr → Nat
  /-- The same, at the last reading; before the first one, when the entity was created. -/
  polled : Attr → Nat
  /-- The sum of the modular differences of the readings in this interval. -/
  since : Attr → Nat
  /-- The sums of the completed intervals, latest first. -/
  past : Attr → List Nat

/-- What can happen. -/
inductive CounterEvent
  | count (amount : Attr → Nat)
  /-- The PM thread polls (`abs`) or the OLT reads current or history data. -/
  | get (interval : PmInterval) (fresh : Attr → Bool)
  | intervalEnd (fresh : Attr → Bool)

/-- An entity created when the hardware has counted so much. -/
def CounterRun.created (cls : PmClass ω) (memory : PmMeContext) (counted : Attr → Nat) :
    CounterRun where
  me := pmMeNew cls memory
  counted := counted
  polled := counted
  since _ := 0
  past _ := []

namespace CounterRun

def isRead (cls : PmClass ω) (fresh : Attr → Bool) (attr : Attr) : Bool :=
  cls.countersGet.isSome && fresh attr

/-- The history goes on with the readings of some of the attributes. -/
def read (run : CounterRun) (cls : PmClass ω) (fresh : Attr → Bool) : CounterRun :=
  { run with
    polled := fun attr =>
      if isRead cls fresh attr then run.counted attr else run.polled attr
    since := fun attr =>
      if isRead cls fresh attr then
        run.since attr + wrapSub (cls.values attr) (cls.reading run.counted attr)
          (cls.reading run.polled attr)
      else run.since attr }

/-- The history goes on with a new interval. -/
def nextInterval (run : CounterRun) : CounterRun :=
  { run with
    since := fun _ => 0
    past := fun attr => run.since attr :: run.past attr }

end CounterRun

/-- One step. -/
def counterStep (cls : PmClass ω) (run : CounterRun) : CounterEvent → Option CounterRun
  | .count amount => some { run with counted := fun attr => run.counted attr + amount attr }
  | .get interval fresh =>
      let handler := countersRead cls.toMeClass run.counted fresh
      some { run.read cls fresh with
        me := (pmMeCountersGet cls (.of interval) handler run.me).1 }
  | .intervalEnd fresh =>
      let handler := countersRead cls.toMeClass run.counted fresh
      some { (run.read cls fresh).nextInterval with
        me := intervalEndWalker cls handler run.me }

/-- The attributes that are read have not come around since they were read before. -/
def CounterGuard (cls : PmClass ω) (run : CounterRun) : CounterEvent → Prop
  | .count _ => True
  | .get _ fresh | .intervalEnd fresh =>
      ∀ attr, cls.IsCounter attr → CounterRun.isRead cls fresh attr = true →
        run.counted attr < run.polled attr + cls.values attr

/-- The current and the history attribute show what was counted in their intervals, up to
the largest value, and every count up to the last reading is in exactly one interval. -/
structure CountersExact (cls : PmClass ω) (created : Attr → Nat) (run : CounterRun) :
    Prop where
  current : ∀ attr, cls.IsCounter attr →
    (cls.attrData (run.me.buffer run.me.curr) attr).toNat =
      min (cls.values attr - 1) (run.since attr)
  history : ∀ attr, cls.IsCounter attr →
    (cls.attrData (run.me.buffer run.me.hist) attr).toNat =
      min (cls.values attr - 1) ((run.past attr).headD 0)
  complete : ∀ attr, cls.IsCounter attr →
    created attr + (run.past attr).sum + run.since attr = run.polled attr

/-- What holds throughout a run: besides, the absolute data shows the last readings. -/
structure Counting (cls : PmClass ω) (created : Attr → Nat) (run : CounterRun) : Prop
    extends CountersExact cls created run where
  apart : run.me.Apart
  absolute : cls.countersGet.isSome = true → ∀ attr, cls.IsCounter attr →
    (cls.attrData (run.me.buffer run.me.abs) attr).toNat = cls.reading run.polled attr
  polled_le : ∀ attr, run.polled attr ≤ run.counted attr

/-- What the handler leaves in the data. -/
theorem attrData_countersRead {cls : MeClass ω} (hlayout : PmLayout cls)
    (counted : Attr → Nat) (fresh : Attr → Bool) (data : Buffer)
    (hattr : cls.IsCounter attr) : (cls.attrData (countersRead cls counted fresh data) attr).toNat =
      if fresh attr then cls.reading counted attr else (cls.attrData data attr).toNat := by
  have hreading : cls.reading counted attr < cls.values attr := Nat.mod_lt _ (cls.values_pos attr)
  have hlarge : cls.values attr ≤ 2 ^ 64 := by
    rw [MeClass.values]
    rcases hlayout.isCounterSize hattr with hsize | hsize | hsize <;> rw [hsize] <;> decide
  have hvalue : (BitVec.ofNat 64 (cls.reading counted attr)).toNat = cls.reading counted attr := by
    rw [BitVec.toNat_ofNat, Nat.mod_eq_of_lt (by omega)]
  have hstep : ∀ data, ∀ other ∈ pmCounters,
      (cls.attrData
        (if cls.isMeAttrExist other && fresh other then
          attrDataSet data (cls.attrs other).offset (cls.attrs other).size
            (BitVec.ofNat 64 (cls.reading counted other))
        else data) attr).toNat =
      if attr = other then
        if fresh attr then cls.reading counted attr else (cls.attrData data attr).toNat
      else (cls.attrData data attr).toNat := by
    intro data other hother
    by_cases heq : attr = other
    · subst heq
      rw [if_pos rfl, hattr.2, Bool.true_and]
      split
      · rw [hlayout.attrData_attrDataSet data hattr hattr (by rw [hvalue]; exact hreading),
          if_pos rfl, hvalue]
      · rfl
    · rw [if_neg heq]
      split
      · rename_i hset
        rw [Bool.and_eq_true] at hset
        have hcounter : cls.IsCounter other := ⟨hother, hset.1⟩
        exact congrArg BitVec.toNat
          (attrDataGet_attrDataSet_of_apart data (hlayout.isCounterSize hcounter) _
            (hlayout.apart attr hattr.1 hattr.2 other hother hset.1 heq))
      · rfl
  rw [countersRead, attrData_foldl nodup_pmCounters hstep, if_pos hattr.1]

section Step

variable {cls : PmClass ω} {created : Attr → Nat} {run : CounterRun}

/-- A run goes on with the readings that `pm_me_counters_get` took. -/
theorem Counting.read (h : Counting cls created run) {fresh : Attr → Bool}
    (hguard : ∀ attr, cls.IsCounter attr → CounterRun.isRead cls fresh attr = true →
      run.counted attr < run.polled attr + cls.values attr) {me : PmMe}
    (htaken : CountersTaken cls (countersRead cls.toMeClass run.counted fresh)
      run.me.toMeData me.toMeData) :
    Counting cls created { run.read cls fresh with me := me } := by
  have hlayout := cls.layout
  -- the difference of the absolute data is what was counted between the two readings
  have hdiff : ∀ attr, cls.IsCounter attr → CounterRun.isRead cls fresh attr = true →
      wrapSub (cls.values attr) (cls.reading run.counted attr) (cls.reading run.polled attr) =
        run.counted attr - run.polled attr :=
    fun attr hattr hread => wrapSub_mod (h.polled_le attr) (hguard attr hattr hread)
  have habs : cls.countersGet.isSome = true → ∀ attr, cls.IsCounter attr →
      (cls.attrData (me.buffer run.me.abs) attr).toNat =
        if fresh attr then cls.reading run.counted attr else cls.reading run.polled attr := by
    intro hsome attr hattr
    rw [htaken.absData, if_pos hsome, attrData_countersRead hlayout run.counted fresh _ hattr,
      h.absolute hsome attr hattr]
  refine ⟨⟨?_, ?_, ?_⟩, ?_, ?_, ?_⟩
  · intro attr hattr
    dsimp only
    rw [htaken.curr, htaken.currData]
    by_cases hsome : cls.countersGet.isSome = true
    · rw [if_pos hsome, hlayout.attrData_counters _ _ _ hattr, counterSum,
        attrData_countersRead hlayout run.counted fresh _ hattr, h.absolute hsome attr hattr,
        h.current attr hattr, satAdd_min]
      congr 1
      by_cases hfresh : fresh attr = true
      · simp [CounterRun.read, CounterRun.isRead, hsome, hfresh]
      · have hsame : wrapSub (cls.values attr) (cls.reading run.polled attr)
            (cls.reading run.polled attr) = 0 := by
          have hpos := cls.values_pos attr
          rw [MeClass.reading, wrapSub_mod (Nat.le_refl _) (by omega), Nat.sub_self]
        simp [CounterRun.read, CounterRun.isRead, hfresh, hsame]
    · rw [if_neg hsome, h.current attr hattr]
      simp [CounterRun.read, CounterRun.isRead, hsome]
  · intro attr hattr
    dsimp only
    rw [htaken.hist, htaken.histData]
    exact h.history attr hattr
  · intro attr hattr
    have hcomplete := h.complete attr hattr
    have hle := h.polled_le attr
    simp only [CounterRun.read]
    split
    · rename_i hread
      rw [hdiff attr hattr hread]
      omega
    · exact hcomplete
  · have hapart := h.apart
    exact ⟨htaken.curr ▸ htaken.hist ▸ hapart.hist, htaken.curr ▸ htaken.abs ▸ hapart.abs,
      htaken.hist ▸ htaken.abs ▸ hapart.histAbs⟩
  · intro hsome attr hattr
    dsimp only
    rw [htaken.abs, habs hsome attr hattr]
    by_cases hfresh : fresh attr = true <;>
      simp [CounterRun.read, CounterRun.isRead, MeClass.reading, hsome, hfresh]
  · intro attr
    simp only [CounterRun.read]
    split
    · exact Nat.le_refl _
    · exact h.polled_le attr

/-- What the interval end does to the buffers once the counters are read. -/
theorem Counting.intervalSwap {dataSize : Nat} (h : Counting cls created run)
    (hsize : dataSize = cls.dataSize) :
    Counting cls created { run.nextInterval with me := run.me.intervalSwap dataSize } := by
  subst hsize
  have hapart := h.apart
  refine ⟨⟨?_, ?_, ?_⟩, ?_, ?_, h.polled_le⟩
  · -- the new current interval is cleared wherever there are counters
    intro attr hattr
    have hwithin := cls.layout.within attr hattr.1 hattr.2
    have hzero : cls.attrData ((run.me.intervalSwap cls.dataSize).buffer run.me.hist) attr =
        attrDataGet (fun _ => 0) (cls.attrs attr).offset (cls.attrs attr).size := by
      apply attrDataGet_congr
      intro i hi hi'
      simp only [PmMe.intervalSwap, Function.update_self]
      rw [patch_of_le (by rw [length_slice]; omega), if_pos (by omega)]
    have hnone : min (cls.values attr - 1) 0 = 0 := Nat.min_eq_right (Nat.zero_le _)
    show (cls.attrData ((run.me.intervalSwap cls.dataSize).buffer run.me.hist) attr).toNat =
      min (cls.values attr - 1) 0
    rw [hzero, attrDataGet_zero, hnone]
    rfl
  · intro attr hattr
    show (cls.attrData ((run.me.intervalSwap cls.dataSize).buffer run.me.curr) attr).toNat =
      min (cls.values attr - 1) (run.since attr)
    simp only [PmMe.intervalSwap, Function.update_of_ne hapart.hist]
    exact h.current attr hattr
  · intro attr hattr
    have hcomplete := h.complete attr hattr
    show created attr + (run.since attr :: run.past attr).sum + 0 = run.polled attr
    rw [List.sum_cons]
    omega
  · exact ⟨hapart.hist.symm, hapart.histAbs, hapart.abs⟩
  · intro hsome attr hattr
    show (cls.attrData ((run.me.intervalSwap cls.dataSize).buffer run.me.abs) attr).toNat =
      cls.reading run.polled attr
    simp only [PmMe.intervalSwap, Function.update_of_ne hapart.histAbs.symm]
    exact h.absolute hsome attr hattr

theorem alarmBitmapEnd_toMeData (me : PmMe) : me.alarmBitmapEnd.toMeData = me.toMeData := by
  rw [PmMe.alarmBitmapEnd]
  split
  · split <;> rfl
  · rfl

/-- One step keeps what holds. -/
theorem Counting.step (h : Counting cls created run) {event : CounterEvent} {run' : CounterRun}
    (hguard : CounterGuard cls run event) (hstep : counterStep cls run event = some run') :
    Counting cls created run' := by
  cases event with
  | count amount =>
      obtain rfl := Option.some.inj hstep
      exact ⟨⟨h.current, h.history, h.complete⟩, h.apart, h.absolute,
        fun attr => Nat.le_add_right_of_le (h.polled_le attr)⟩
  | get interval fresh =>
      obtain rfl := Option.some.inj hstep
      exact h.read hguard (pmMeCountersGet_taken cls (.of interval) _ h.apart)
  | intervalEnd fresh =>
      obtain rfl := Option.some.inj hstep
      have hbitmap := alarmBitmapEnd_toMeData run.me
      have hapart : run.me.alarmBitmapEnd.Apart := hbitmap ▸ h.apart
      have htaken := pmMeCountersGet_taken cls .intervalEnd
        (countersRead cls.toMeClass run.counted fresh) hapart
      rw [hbitmap] at htaken
      exact (h.read hguard htaken).intervalSwap rfl

end Step

theorem apart_blank : MeData.blank.Apart := ⟨by decide, by decide, by decide⟩

theorem attrData_blank (cls : MeClass ω) (buffer : Fin 3) (attr : Attr) :
    (cls.attrData (MeData.blank.buffer buffer) attr).toNat = 0 := by
  show (attrDataGet (fun _ => 0) _ _).toNat = 0
  rw [attrDataGet_zero]
  rfl

/-- An entity created when the hardware counters are at zero. -/
theorem Counting.created {cls : PmClass ω} {memory : PmMeContext} {counted : Attr → Nat}
    (hzero : cls.countersGet.isSome = true → ∀ attr, cls.IsCounter attr →
      cls.reading counted attr = 0) : Counting cls counted (.created cls memory counted) := by
  refine ⟨⟨?_, ?_, ?_⟩, apart_blank, ?_, fun _ => Nat.le_refl _⟩
  · intro attr _
    rw [show CounterRun.since (.created cls memory counted) attr = 0 from rfl, Nat.min_zero]
    exact attrData_blank _ _ attr
  · intro attr _
    rw [show (CounterRun.past (.created cls memory counted) attr).headD 0 = 0 from rfl,
      Nat.min_zero]
    exact attrData_blank _ _ attr
  · intro attr _
    rfl
  · intro hsome attr hattr
    rw [show CounterRun.polled (.created cls memory counted) = counted from rfl,
      hzero hsome attr hattr]
    exact attrData_blank _ _ attr

/-- The first reading of a new entity counts from zero. -/
theorem attrData_firstRead (cls : PmClass ω) (memory : PmMeContext) (counted : Attr → Nat)
    (hsome : cls.countersGet.isSome = true) (hattr : cls.IsCounter attr) {me : PmMe}
    (hme : me = (pmMeCountersGet cls (.of .abs)
      (countersRead cls.toMeClass counted fun _ => true) (pmMeNew cls memory)).1) :
    (cls.attrData (me.buffer me.curr) attr).toNat = cls.reading counted attr := by
  have hapart : (pmMeNew cls memory).Apart := apart_blank
  have htaken := pmMeCountersGet_taken cls (.of .abs)
    (countersRead cls.toMeClass counted fun _ => true) hapart
  rw [← hme] at htaken
  have hcurr := htaken.currData
  rw [if_pos hsome] at hcurr
  have hreading : cls.reading counted attr < cls.values attr := Nat.mod_lt _ (cls.values_pos attr)
  rw [htaken.curr, hcurr, cls.layout.attrData_counters _ _ _ hattr, counterSum,
    attrData_countersRead cls.layout counted _ _ hattr, if_pos rfl,
    show (pmMeNew cls memory).toMeData = MeData.blank from rfl, attrData_blank,
    attrData_blank, wrapSub, Nat.sub_zero, Nat.add_mod_right, Nat.mod_eq_of_lt hreading, satAdd]
  omega

/-- A first reading before anything more is counted is to show nothing. -/
theorem reading_eq_zero {cls : PmClass ω} {memory : PmMeContext} {counted : Attr → Nat}
    (hexact : ∀ run,
      ReachOn (counterStep cls) (CounterGuard cls) (.created cls memory counted) run →
        CountersExact cls counted run)
    (hsome : cls.countersGet.isSome = true) {attr : Attr} (hattr : cls.IsCounter attr) :
    cls.reading counted attr = 0 := by
  have hguard : CounterGuard cls (.created cls memory counted) (.get .abs fun _ => true) :=
    fun attr _ _ => Nat.lt_add_of_pos_right (cls.values_pos attr)
  have hcurrent := (hexact _ (.tail .refl hguard rfl)).current attr hattr
  have hsince : wrapSub (cls.values attr) (cls.reading counted attr)
      (cls.reading counted attr) = 0 := by
    rw [MeClass.reading, wrapSub_mod (Nat.le_refl _)
      (Nat.lt_add_of_pos_right (cls.values_pos attr)), Nat.sub_self]
  have hfirst := attrData_firstRead cls memory counted hsome hattr rfl
  have hzero := hfirst.symm.trans hcurrent
  simpa [CounterRun.read, CounterRun.created, CounterRun.isRead, hsome, hsince] using hzero

/-- The attributes show what was counted in their intervals, in every run in which no
counter comes around unread, exactly if the hardware counters are at zero when the entity
is created. -/
theorem countersExact_iff (cls : PmClass ω) (memory : PmMeContext) (counted : Attr → Nat) :
    (∀ run, ReachOn (counterStep cls) (CounterGuard cls) (.created cls memory counted) run →
        CountersExact cls counted run) ↔
      (cls.countersGet.isSome = true → ∀ attr, cls.IsCounter attr →
        cls.reading counted attr = 0) := by
  constructor
  · intro hexact hsome attr hattr
    exact reading_eq_zero hexact hsome hattr
  · intro hzero run hreach
    have hcounting : Counting cls counted _ := hreach.invariant (.created hzero)
      fun _ _ _ h hguard hstep => h.step hguard hstep
    exact hcounting.toCountersExact

/-- Five ICMP errors before the entity was created, none since: its first reading shows
five. -/
theorem ipHostMonitoringData_not_exact :
    ¬ ∀ run, ReachOn (counterStep ipHostMonitoringData) (CounterGuard ipHostMonitoringData)
      (.created ipHostMonitoringData ⟨0, fun _ => 0⟩ fun _ => 5) run →
        CountersExact ipHostMonitoringData (fun _ => 5) run := by
  intro hexact
  have hicmp : ipHostMonitoringData.IsCounter 2 := ⟨by decide, by decide⟩
  have hreading : ipHostMonitoringData.reading (fun _ => 5) 2 = 5 := by decide
  have hzero := reading_eq_zero hexact rfl hicmp
  rw [hreading] at hzero
  exact absurd hzero (by decide)

end FalconGpon.Omci
