/-
# The windows of a download

A window is acknowledged with success only if its sections came in order from section 0
on, and what has been acknowledged is the beginning of the image in memory
(`swImage_windowsCommitted`). The last section may reach beyond the image; what lies
there is padding and is not stored.

The counters of sections have 32 bits; `WindowGuard` says that they suffice.
-/

import FalconGpon.Omci.SwBuffer

namespace FalconGpon.Omci

open FalconGpon.Lib

def Numbered (sections : List OmciMsg) : Prop :=
  sections.map (fun msg => (msg.octet 0).toNat) = List.range sections.length

def Holds (memory : Memory) (imageSize : Nat) (sections : List OmciMsg) : Prop :=
  ∀ i, i < 31 * sections.length → i < imageSize →
    (sections.flatMap sectData)[i]? = some (memory.bytes i)

theorem toNat_sectNum (msg : OmciMsg) : (sectNum msg).toNat = (msg.octet 0).toNat := by
  have hlt := (msg.octet 0).isLt
  rw [sectNum, BitVec.toNat_setWidth]
  omega

theorem toNat_sectNum_lt (msg : OmciMsg) : (sectNum msg).toNat < 256 := by
  rw [toNat_sectNum]
  exact (msg.octet 0).isLt

section Sections

variable {sections : List OmciMsg} {memory memory' : Memory} {imageSize : Nat} {msg : OmciMsg}

theorem length_flatMap_sectData (sections : List OmciMsg) :
    (sections.flatMap sectData).length = 31 * sections.length := by
  induction sections with
  | nil => rfl
  | cons msg sections ih =>
      rw [List.flatMap_cons, List.length_append, ih, sectData, length_slice, List.length_cons]
      omega

theorem Numbered.append (hnumbered : Numbered sections)
    (hnumber : (msg.octet 0).toNat = sections.length) : Numbered (sections ++ [msg]) := by
  rw [Numbered, List.map_append, hnumbered, List.length_append, List.length_singleton,
    List.range_succ, List.map_singleton, hnumber]

theorem Holds.nil (memory : Memory) (imageSize : Nat) : Holds memory imageSize [] := by
  intro i hi
  simp at hi

theorem Holds.congr (hholds : Holds memory imageSize sections)
    (hsame : ∀ i, i < 31 * sections.length → memory'.bytes i = memory.bytes i) :
    Holds memory' imageSize sections := by
  intro i hi hsize
  rw [hsame i hi]
  exact hholds i hi hsize

theorem Holds.append (hholds : Holds memory imageSize sections)
    (hsection : ∀ i, 31 * sections.length ≤ i → i < 31 * (sections.length + 1) →
      i < imageSize → (sectData msg)[i - 31 * sections.length]? = some (memory.bytes i)) :
    Holds memory imageSize (sections ++ [msg]) := by
  intro i hi hsize
  rw [List.length_append, List.length_singleton] at hi
  rw [List.flatMap_append, List.flatMap_singleton]
  by_cases hlt : i < 31 * sections.length
  · rw [List.getElem?_append_left (by rw [length_flatMap_sectData]; exact hlt)]
    exact hholds i hlt hsize
  · rw [List.getElem?_append_right (by rw [length_flatMap_sectData]; omega),
      length_flatMap_sectData]
    exact hsection i (by omega) hi hsize

theorem Holds.slice_eq (hholds : Holds memory imageSize sections) :
    slice memory.bytes 0 (min (31 * sections.length) imageSize) =
      (sections.flatMap sectData).take (min (31 * sections.length) imageSize) := by
  apply List.ext_getElem?
  intro i
  by_cases hi : i < min (31 * sections.length) imageSize
  · rw [List.getElem?_take_of_lt hi, hholds i (by omega) (by omega)]
    simp only [slice, List.getElem?_map, List.getElem?_range hi]
    simp
  · rw [List.getElem?_eq_none (by rw [length_slice]; omega), List.getElem?_eq_none]
    rw [List.length_take]
    omega

end Sections

/-! ## Copying a section -/

section Copy

variable {memory memory' : Memory} {imageSize number : BitVec 32} {msg : OmciMsg}

theorem toNat_sectOffset (hfits : 31 * (number.toNat + 1) < 2 ^ 32) :
    (sectOffset number).toNat = 31 * number.toNat := by
  have hsize : (31 : BitVec 32).toNat = 31 := rfl
  rw [sectOffset, BitVec.toNat_mul, hsize, Nat.mod_eq_of_lt (by omega), Nat.mul_comm]

/-- Where a section goes, if 32 bits suffice. -/
theorem sectRange_eq (hfits : 31 * (number.toNat + 1) < 2 ^ 32) :
    sectRange imageSize (sectOffset number) =
      if imageSize.toNat < 31 * number.toNat then none
      else some (31 * number.toNat, min 31 (imageSize.toNat - 31 * number.toNat)) := by
  have hoffset := toNat_sectOffset hfits
  generalize sectOffset number = offset at hoffset ⊢
  have hlt : imageSize.toNat < 2 ^ 32 := imageSize.isLt
  have hend : (offset + 31).toNat = 31 * number.toNat + 31 := by
    bv_omega
  simp only [sectRange]
  split
  · rename_i hbeyond
    split
    · rename_i hpadding
      rw [if_neg (by bv_omega), if_pos (by bv_omega)]
    · rename_i hpart
      rw [if_pos (by bv_omega), if_neg (by bv_omega), hoffset]
      congr 2
      bv_omega
  · rename_i hwhole
    rw [if_pos (by bv_omega), if_neg (by bv_omega), hoffset]
    congr 2
    bv_omega

/-- A copied section leaves alone what lies in front of it, and is there as far as the
image reaches. -/
theorem copySection_eq (hfits : 31 * (number.toNat + 1) < 2 ^ 32)
    (hcopy : memory.copySection imageSize (sectOffset number) msg = some memory') :
    (∀ i, i < 31 * number.toNat → memory'.bytes i = memory.bytes i) ∧
      ∀ i, 31 * number.toNat ≤ i → i < 31 * (number.toNat + 1) → i < imageSize.toNat →
        (sectData msg)[i - 31 * number.toNat]? = some (memory'.bytes i) := by
  rw [Memory.copySection, sectRange_eq hfits] at hcopy
  by_cases hpadding : imageSize.toNat < 31 * number.toNat
  · rw [if_pos hpadding] at hcopy
    obtain rfl := Option.some.inj hcopy
    constructor
    · intro i _
      rfl
    · intro i hle _ hsize
      omega
  · rw [if_neg hpadding] at hcopy
    dsimp only [Memory.write] at hcopy
    split at hcopy
    · obtain rfl := Option.some.inj hcopy
      constructor
      · intro i hi
        exact patch_of_lt hi
      · intro i hle hi hsize
        have hlength : (sectData msg).length = 31 := length_slice _ _ _
        have hindex : i - 31 * number.toNat < (sectData msg).length := by omega
        have htake : i - 31 * number.toNat < min 31 (imageSize.toNat - 31 * number.toNat) := by
          omega
        simp only [patch, hle, if_true, List.getElem?_take_of_lt htake,
          List.getElem?_eq_getElem hindex, Option.getD_some]
    · cases hcopy

end Copy

/-! ## Windows -/

/-- What the memory holds in the course of a download. -/
structure SwImage.Downloaded (me : SwImage) (memory : Memory) : Prop where
  total : me.totalSectReceived.toNat = me.windows.flatten.length
  held : Holds memory me.imageSize.toNat me.windows.flatten
  /-- Unless a section was missed, the last sections are those of the window in hand. -/
  pending : me.sectionMissed = 0 → ∃ front window, me.sections = front ++ window ∧
    window.length = me.currSectReceived.toNat ∧ Numbered window ∧
    Holds memory me.imageSize.toNat (me.windows.flatten ++ window)

/-- What is known of the windows of an entity. -/
structure SwImage.Windowed (me : SwImage) : Prop where
  numbered : ∀ window ∈ me.windows, Numbered window
  downloaded : ∀ memory, me.data = some memory → me.Downloaded memory

def SwImage.countersFit (me : SwImage) (msg : OmciMsg) : Bool :=
  decide (31 * (me.totalSectReceived.toNat + (sectNum msg).toNat + 1) < 2 ^ 32) &&
    (me.restart msg).sectionMissed != 0xffffffff

def WindowGuard (images : SwImages) : SwImageEvent → Prop
  | .dlSection inst msg => ∀ me, images.me inst = some me → me.countersFit msg = true
  | _ => True

instance (images : SwImages) (event : SwImageEvent) : Decidable (WindowGuard images event) :=
  match event with
  | .dlSection inst msg =>
      decidable_of_iff ((images.me inst).all fun me => me.countersFit msg) (by
        rw [WindowGuard, Option.all_eq_true])
  | .startDl _ _ _ | .endDl _ _ _ | .activateImage _ _ _ | .commitImage _ _ _ | .timeout _
  | .endDlCb _ _ _ | .commitCb _ => inferInstanceAs (Decidable True)

section Windowed

variable {inst : InstanceId} {event : SwImageEvent} {me me' : SwImage} {msg : OmciMsg}

theorem windowed_meInit (attrs : OmciMeSwImage) : (SwImage.meInit attrs).Windowed :=
  ⟨nofun, nofun⟩

theorem windowed_started (me : SwImage) (msg : OmciMsg) (bytes : Buffer) :
    SwImage.Windowed { me.started msg bytes with sections := [], windows := [] } := by
  constructor
  · nofun
  · intro memory _
    refine ⟨rfl, Holds.nil _ _, fun _ => ⟨[], [], rfl, rfl, rfl, Holds.nil _ _⟩⟩

theorem miss_sectionMissed_eq_zero (hfull : me.sectionMissed ≠ 0xffffffff)
    (hmissed : (me.miss msg).sectionMissed = 0) :
    me.sectionMissed = 0 ∧ me.currSectReceived = sectNum msg := by
  rw [SwImage.miss] at hmissed
  split at hmissed
  · exfalso
    apply hfull
    have hsucc : me.sectionMissed + 1 = 0 := hmissed
    bv_omega
  · rename_i hsame
    exact ⟨hmissed, not_not.mp hsame⟩

/-- The sections of the window in hand, at a section that continues it. -/
theorem SwImage.Downloaded.window {memory : Memory} (h : me.Downloaded memory)
    (hmissed : (me.restart msg).sectionMissed = 0) (hnumber : me.currSectReceived = sectNum msg) :
    ∃ front window, me.sections = front ++ window ∧
      window.length = (sectNum msg).toNat ∧ Numbered window ∧
      Holds memory me.imageSize.toNat (me.windows.flatten ++ window) := by
  rw [SwImage.restart] at hmissed
  split at hmissed
  · -- the first section of a window
    rename_i hfirst
    refine ⟨me.sections, [], by simp, ?_, rfl, ?_⟩
    · rw [hfirst]
      rfl
    · rw [List.append_nil]
      exact h.held
  · rw [← hnumber]
    exact h.pending hmissed

/-- The window in hand with the section that was copied. -/
theorem SwImage.Downloaded.copied {memory memory' : Memory} (h : me.Downloaded memory)
    (hfits : me.countersFit msg = true) (hcopy : memory.copySection me.imageSize
      (sectOffset (me.totalSectReceived + sectNum msg)) msg = some memory')
    (hmissed : ((me.restart msg).miss msg).sectionMissed = 0) :
    ∃ front window, me.sections ++ [msg] = front ++ window ∧
      window.length = (sectNum msg).toNat + 1 ∧ Numbered window ∧
      Holds memory' me.imageSize.toNat (me.windows.flatten ++ window) := by
  rw [SwImage.countersFit, Bool.and_eq_true, decide_eq_true_eq, bne_iff_ne] at hfits
  obtain ⟨hbound, hfull⟩ := hfits
  obtain ⟨hnone, hnumber⟩ := miss_sectionMissed_eq_zero hfull hmissed
  rw [restart_currSectReceived] at hnumber
  obtain ⟨front, window, hsections, hlength, hnumbered, hholds⟩ := h.window hnone hnumber
  have htotal := h.total
  have hindex : (me.totalSectReceived + sectNum msg).toNat =
      (me.windows.flatten ++ window).length := by
    rw [BitVec.toNat_add, Nat.mod_eq_of_lt (by omega), List.length_append, htotal, hlength]
  obtain ⟨hfront, hsection⟩ := copySection_eq (by rw [BitVec.toNat_add]; omega) hcopy
  rw [hindex] at hfront hsection
  refine ⟨front, window ++ [msg], ?_, ?_, ?_, ?_⟩
  · rw [hsections, List.append_assoc]
  · rw [List.length_append, hlength, List.length_singleton]
  · apply hnumbered.append
    rw [hlength, toNat_sectNum]
  · rw [← List.append_assoc]
    exact (hholds.congr hfront).append hsection

/-- Copying a section keeps the acknowledged windows. -/
theorem SwImage.Downloaded.held_copied {memory memory' : Memory} (h : me.Downloaded memory)
    (hfits : me.countersFit msg = true) (hcopy : memory.copySection me.imageSize
      (sectOffset (me.totalSectReceived + sectNum msg)) msg = some memory') :
    Holds memory' me.imageSize.toNat me.windows.flatten := by
  rw [SwImage.countersFit, Bool.and_eq_true, decide_eq_true_eq] at hfits
  have hsum : (me.totalSectReceived + sectNum msg).toNat =
      me.totalSectReceived.toNat + (sectNum msg).toNat := by
    rw [BitVec.toNat_add, Nat.mod_eq_of_lt (by omega)]
  obtain ⟨hfront, _⟩ := copySection_eq (by omega) hcopy
  apply h.held.congr
  intro i hi
  apply hfront
  have htotal := h.total
  omega

theorem copied_totalSectReceived (me : SwImage) (memory : Memory) (msg : OmciMsg) :
    (me.copied memory msg).totalSectReceived =
      if omciMsgTypeArGet msg = 1 ∧ me.sectionMissed = 0 then
        me.totalSectReceived + (me.currSectReceived + 1)
      else me.totalSectReceived := by
  rw [SwImage.copied, SwImage.endSection]
  split
  · rename_i hlast
    split
    · rename_i hmissed
      rw [if_pos ⟨hlast, hmissed⟩]
    · rename_i hmissed
      rw [if_neg fun h => hmissed h.2]
  · rename_i hlast
    rw [if_neg fun h => hlast h.1]

theorem copied_currSectReceived (me : SwImage) (memory : Memory) (msg : OmciMsg) :
    (me.copied memory msg).currSectReceived =
      if omciMsgTypeArGet msg = 1 then 0 else me.currSectReceived + 1 := by
  rw [SwImage.copied, SwImage.endSection]
  split
  · split <;> rfl
  · rfl

theorem SwImage.Windowed.dropped (h : me.Windowed) (htaking : me.taking = true) {rsp : OmciMsg}
    (hresult : rsp.result ≠ mrCmdSuccess) :
    (me.noteSection { me.restart msg with currSectReceived := 0 } msg rsp).Windowed := by
  rw [SwImage.noteSection, if_pos htaking]
  simp only [hresult, and_false, if_false]
  constructor
  · exact h.numbered
  · intro memory hdata
    have hdownloaded := h.downloaded memory (by simpa using hdata)
    constructor
    · simpa using hdownloaded.total
    · simpa using hdownloaded.held
    · intro _
      exact ⟨me.sections ++ [msg], [], by simp, rfl, rfl, by simpa using hdownloaded.held⟩

/-- A section that is copied adds to the window in hand, and may complete it. -/
theorem SwImage.Windowed.copied (h : me.Windowed) (htaking : me.taking = true)
    {memory memory' : Memory} (hdata : me.data = some memory)
    (hexpects : (me.restart msg).expects msg = true) (hfits : me.countersFit msg = true)
    (hcopy : memory.copySection me.imageSize
      (sectOffset (me.totalSectReceived + sectNum msg)) msg = some memory') {rsp : OmciMsg}
    (hresult : rsp.result =
      if (((me.restart msg).miss msg).copied memory' msg).sectionMissed ≠ 0 then mrCmdError
      else mrCmdSuccess) :
    (me.noteSection (((me.restart msg).miss msg).copied memory' msg) msg rsp).Windowed := by
  have hdownloaded := h.downloaded memory hdata
  have hheld := hdownloaded.held_copied hfits hcopy
  have hnumber := miss_currSectReceived hexpects
  have hbyte := toNat_sectNum_lt msg
  rw [copied_sectionMissed] at hresult
  rw [SwImage.noteSection, if_pos htaking]
  by_cases hmissed : ((me.restart msg).miss msg).sectionMissed = 0
  · obtain ⟨front, window, hsections, hlength, hnumbered, hholds⟩ :=
      hdownloaded.copied hfits hcopy hmissed
    have hsucc : (sectNum msg + 1).toNat = window.length := by
      rw [hlength]
      bv_omega
    rw [if_neg (not_not.mpr hmissed)] at hresult
    by_cases hlast : omciMsgTypeArGet msg = 1
    · -- the window is complete
      have hcount : (me.totalSectReceived + (sectNum msg + 1) - me.totalSectReceived).toNat =
          window.length := by
        rw [BitVec.add_comm, BitVec.add_sub_cancel, hsucc]
      have hdrop : (front ++ window).drop ((front ++ window).length - window.length) = window := by
        rw [List.length_append, Nat.add_sub_cancel]
        exact List.drop_left
      simp only [copied_totalSectReceived, hlast, hmissed, and_self, if_true, hnumber, hresult,
        miss_totalSectReceived, restart_totalSectReceived, hcount, hsections, hdrop]
      constructor
      · intro other hother
        rcases List.mem_append.mp hother with hold | hnew
        · exact h.numbered other hold
        · rw [List.mem_singleton.mp hnew]
          exact hnumbered
      · intro other hother
        rw [copied_data] at hother
        obtain rfl := Option.some.inj hother
        have hflatten : (me.windows ++ [window]).flatten = me.windows.flatten ++ window := by simp
        constructor
        · show (me.totalSectReceived + (sectNum msg + 1)).toNat = _
          rw [BitVec.toNat_add, hflatten, List.length_append, hsucc, ← hdownloaded.total]
          rw [SwImage.countersFit, Bool.and_eq_true, decide_eq_true_eq] at hfits
          omega
        · simpa [hflatten] using hholds
        · intro _
          refine ⟨front ++ window, [], by simp, ?_, rfl, by simpa [hflatten] using hholds⟩
          simp [copied_currSectReceived, hlast]
    · have htotal : (((me.restart msg).miss msg).copied memory' msg).totalSectReceived =
          me.totalSectReceived := by
        rw [copied_totalSectReceived, if_neg fun h => hlast h.1]
        simp
      simp only [hlast, false_and, if_false, hsections]
      constructor
      · exact h.numbered
      · intro other hother
        rw [copied_data] at hother
        obtain rfl := Option.some.inj hother
        constructor
        · exact (congrArg BitVec.toNat htotal).trans hdownloaded.total
        · simpa using hheld
        · intro _
          refine ⟨front, window, rfl, ?_, hnumbered, by simpa using hholds⟩
          simp only [copied_currSectReceived, hlast, if_false, hnumber]
          exact hsucc.symm
  · have herror : rsp.result ≠ mrCmdSuccess := by
      rw [hresult, if_pos hmissed]
      decide
    have htotal : (((me.restart msg).miss msg).copied memory' msg).totalSectReceived =
        me.totalSectReceived := by
      rw [copied_totalSectReceived, if_neg fun h => hmissed h.2]
      simp
    simp only [herror, and_false, if_false]
    constructor
    · exact h.numbered
    · intro other hother
      rw [copied_data] at hother
      obtain rfl := Option.some.inj hother
      constructor
      · exact (congrArg BitVec.toNat htotal).trans hdownloaded.total
      · simpa using hheld
      · intro hzero
        rw [copied_sectionMissed] at hzero
        exact absurd hzero hmissed

/-- No event spoils the windows. -/
theorem SwImage.Windowed.moved (h : me.Windowed) (hmoved : SwImageMoved inst event me me')
    (hfits : ∀ msg, event = .dlSection inst msg → me.countersFit msg = true) : me'.Windowed := by
  cases hmoved with
  | same => exact h
  | startDl env msg hevent =>
      rcases startDl_cases env inst me msg (rspCreate msg) with
        ⟨bytes, _, hstarted⟩ | ⟨_, hdata, _, _⟩
      · rw [hstarted]
        exact windowed_started me msg bytes
      · constructor
        · intro memory hmemory
          cases hmemory
        · intro memory hmemory
          cases hdata.symm.trans hmemory
  | dlSection msg rsp after hevent hresult =>
      have hended := dlSection_ended me msg (rspCreate msg)
      rw [hresult] at hended
      cases hended with
      | refused _ htaking _ =>
          rw [SwImage.noteSection, htaking]
          exact h
      | dropped _ htaking _ hnot => exact h.dropped htaking hnot
      | copied memory memory' _ htaking hdata hexpects hcopy hanswer =>
          exact h.copied htaking hdata hexpects (hfits msg hevent) hcopy hanswer
  | endDl env msg rsp after err data hevent hresult =>
      have hended := endDl_ended env inst me msg (rspCreate msg)
      rw [hresult] at hended
      cases hended with
      | busy | idle | complete | inUse =>
          exact ⟨h.numbered, fun memory hmemory =>
            ⟨(h.downloaded memory hmemory).total, (h.downloaded memory hmemory).held,
              (h.downloaded memory hmemory).pending⟩⟩
      | failed | stored => exact ⟨h.numbered, fun _ hmemory => by cases hmemory⟩
  | active | committed =>
      exact ⟨h.numbered, fun memory hmemory =>
        ⟨(h.downloaded memory hmemory).total, (h.downloaded memory hmemory).held,
          (h.downloaded memory hmemory).pending⟩⟩
  | timeout => exact ⟨h.numbered, fun _ hmemory => by cases hmemory⟩
  | endDlCb write version valid =>
      rw [SwImage.endWrite]
      split <;> exact ⟨h.numbered, fun memory hmemory =>
        ⟨(h.downloaded memory hmemory).total, (h.downloaded memory hmemory).held,
          (h.downloaded memory hmemory).pending⟩⟩

end Windowed

/-- What a download promises about the windows it acknowledged with success. -/
structure WindowsCommitted (me : SwImage) : Prop where
  /-- The sections of each came in order. -/
  numbered : ∀ window ∈ me.windows, Numbered window
  /-- Nothing else is counted. -/
  total : ∀ memory, me.data = some memory →
    me.totalSectReceived.toNat = me.windows.flatten.length
  /-- They are the beginning of the image, as far as it reaches. -/
  bytes : ∀ memory, me.data = some memory →
    slice memory.bytes 0 (min (31 * me.totalSectReceived.toNat) me.imageSize.toNat) =
      (me.windows.flatten.flatMap sectData).take
        (min (31 * me.totalSectReceived.toNat) me.imageSize.toNat)

theorem SwImage.Windowed.committed {me : SwImage} (h : me.Windowed) : WindowsCommitted me where
  numbered := h.numbered
  total memory hdata := (h.downloaded memory hdata).total
  bytes memory hdata := by
    rw [(h.downloaded memory hdata).total]
    exact (h.downloaded memory hdata).held.slice_eq

def SwImages.Windowed (images : SwImages) : Prop :=
  ∀ inst me, images.me inst = some me → me.Windowed

/-- In every run whose counters of sections have room, a window is acknowledged with success
only if its sections came in order, and the image begins with the acknowledged windows. -/
theorem swImage_windowsCommitted (attrs : InstanceId → Option OmciMeSwImage) {images : SwImages}
    (hreach : ReachOn swImageStep WindowGuard (swImagesInit attrs) images) {inst : InstanceId}
    {me : SwImage} (hme : images.me inst = some me) : WindowsCommitted me := by
  have hstart : (swImagesInit attrs).Windowed := by
    intro inst me hme
    obtain ⟨_, _, rfl⟩ := Option.map_eq_some_iff.mp hme
    exact windowed_meInit _
  have hall : images.Windowed := by
    apply hreach.invariant hstart
    intro before event after hinv hguard hstep inst me' hme'
    obtain ⟨me, hme, hmoved⟩ := swImageStep_moved hstep inst me' hme'
    apply (hinv inst me hme).moved hmoved
    intro msg hevent
    subst hevent
    exact hguard me hme
  exact (hall inst me hme).committed

/-! ## An image of ten bytes -/

def sampleDlSection : SwImageEvent :=
  .dlSection 1 (sampleRequest 0x54 (0 :: List.replicate 31 0xff))

/-- The window is acknowledged, and the image is full. -/
theorem swImage_windowsCommitted_section :
    ∃ images : SwImages, ∃ me, images.me 1 = some me ∧ me.windows.length = 1 ∧
      WindowsCommitted me := by
  have hrun : (execOn swImageStep WindowGuard (swImagesInit sampleImages)
      [sampleStartDl sampleEnv, sampleDlSection]).any
      (fun images => decide ((images.me 1).any (fun me =>
        decide (me.windows.length = 1)) = true)) = true := by
    decide
  obtain ⟨images, hreach, hwindows⟩ := exists_reachOn_of_execOn hrun
  obtain ⟨me, hme, hlength⟩ := (Option.any_eq_true _ _).mp hwindows
  exact ⟨images, me, hme, of_decide_eq_true hlength,
    swImage_windowsCommitted sampleImages hreach hme⟩

def WindowsInMemory (me : SwImage) : Prop :=
  ∀ memory, me.data = some memory → 31 * me.totalSectReceived.toNat ≤ memory.size ∧
    slice memory.bytes 0 (31 * me.totalSectReceived.toNat) = me.windows.flatten.flatMap sectData

/-- The last section reaches beyond the memory. -/
theorem swImage_not_windowsInMemory :
    ∃ images, Reach swImageStep (swImagesInit sampleImages) images ∧
      ∃ me, images.me 1 = some me ∧ ¬ WindowsInMemory me := by
  have hrun : (execOn swImageStep (fun _ _ => True) (swImagesInit sampleImages)
      [sampleStartDl sampleEnv, sampleDlSection]).any
      (fun images => decide ((images.me 1).any (fun me => me.data.any fun memory =>
        decide (memory.size < 31 * me.totalSectReceived.toNat)) = true)) = true := by
    decide
  obtain ⟨images, hreach, hbeyond⟩ := exists_reachOn_of_execOn hrun
  obtain ⟨me, hme, hdata⟩ := (Option.any_eq_true _ _).mp hbeyond
  obtain ⟨memory, hmemory, hsize⟩ := (Option.any_eq_true _ _).mp hdata
  refine ⟨images, hreach, me, hme, fun hall => ?_⟩
  have hle := (hall memory hmemory).1
  have hlt := of_decide_eq_true hsize
  omega

end FalconGpon.Omci
