/-
# The outcome of a download

END_DL is answered with success, and the image marked valid, only if the image of the
latest START_DL passed the checks and was written (`swImage_downloadOutcome`), as long as
no START_DL comes while its image is being written and none is refused between the end of
the write and the END_DL that reports it. The callback of the flash writer lets go of the
entity exactly if it reports success.

`sinceStart` is the part of the log that belongs to the latest START_DL.
-/

import FalconGpon.Omci.SwBuffer

namespace FalconGpon.Omci

open FalconGpon.Lib

/-- What was logged since the latest START_DL for the entity. -/
def sinceStart (inst : InstanceId) : List SwImageLog → List SwImageLog
  | [] => []
  | .startDl other :: log => if other = inst then [] else .startDl other :: sinceStart inst log
  | .stored other msg data :: log => .stored other msg data :: sinceStart inst log
  | .written other data valid :: log => .written other data valid :: sinceStart inst log
  | .endDl other rsp :: log => .endDl other rsp :: sinceStart inst log

/-- The image of the latest START_DL passed the CRC and size check. -/
def Passed (inst : InstanceId) (log : List SwImageLog) (data : Memory) : Prop :=
  ∃ msg, .stored inst msg data ∈ sinceStart inst log ∧
    (msg.field32 4).toNat ≤ data.size ∧
    crc32I363Calc (slice data.bytes 0 (msg.field32 4).toNat) = msg.field32 0

def Finished (inst : InstanceId) (log : List SwImageLog) : Prop :=
  ∃ data, Passed inst log data ∧ .written inst data true ∈ sinceStart inst log

/-- END_DL is answered with success only for images that are finished, and only images that
passed the checks are marked valid. -/
def Outcomes : List SwImageLog → Prop
  | [] => True
  | .endDl inst rsp :: log => (rsp.result = mrCmdSuccess → Finished inst log) ∧ Outcomes log
  | .written inst data valid :: log => (valid = true → Passed inst log data) ∧ Outcomes log
  | .startDl _ :: log | .stored _ _ _ :: log => Outcomes log

/-- No START_DL comes while its image is being written, and none is refused before the END_DL
that reports a write; the entities are those the driver knows. -/
def OutcomeGuard (images : SwImages) : SwImageEvent → Prop
  | .startDl inst env _ => (∀ write ∈ images.writes, write.instanceId ≠ inst) ∧
      ∀ me, images.me inst = some me → me.status = .writingComplete →
        me.accepts env inst = true
  | .endDl inst _ _ => swImageId inst = inst
  | _ => True

instance (images : SwImages) (event : SwImageEvent) : Decidable (OutcomeGuard images event) :=
  match event with
  | .startDl inst env _ =>
      decidable_of_iff ((∀ write ∈ images.writes, write.instanceId ≠ inst) ∧
        (images.me inst).all (fun me =>
          decide (me.status = .writingComplete → me.accepts env inst = true)) = true) (by
        simp only [OutcomeGuard, Option.all_eq_true, decide_eq_true_eq])
  | .endDl inst _ _ => inferInstanceAs (Decidable (swImageId inst = inst))
  | .dlSection _ _ | .activateImage _ _ _ | .commitImage _ _ _ | .timeout _ | .endDlCb _ _ _
  | .commitCb _ => inferInstanceAs (Decidable True)

/-- What is known of the images and the log. -/
structure SwImages.Tracked (images : SwImages) : Prop where
  writing : ∀ write ∈ images.writes, ∃ me, images.me write.instanceId = some me ∧
    me.status = .writing ∧ Passed write.instanceId images.log write.data
  distinct : images.writes.Pairwise fun first second => first.instanceId ≠ second.instanceId
  complete : ∀ inst me, images.me inst = some me → me.status = .writingComplete →
    me.isValid = true ∧ Finished inst images.log
  timeout : ∀ inst me, images.me inst = some me → me.timeout = true → me.status = .downloading
  outcomes : Outcomes images.log

/-! ## The log grows -/

section Log

variable {inst other : InstanceId} {log log' : List SwImageLog} {data : Memory}

theorem Passed.mono (h : Passed inst log data)
    (hlog : ∀ entry ∈ sinceStart inst log, entry ∈ sinceStart inst log') :
    Passed inst log' data := by
  obtain ⟨msg, hstored, hchecks⟩ := h
  exact ⟨msg, hlog _ hstored, hchecks⟩

theorem Finished.mono (h : Finished inst log)
    (hlog : ∀ entry ∈ sinceStart inst log, entry ∈ sinceStart inst log') : Finished inst log' := by
  obtain ⟨data, hpassed, hwritten⟩ := h
  exact ⟨data, hpassed.mono hlog, hlog _ hwritten⟩

theorem mem_sinceStart_startDl (hne : other ≠ inst) :
    ∀ entry ∈ sinceStart inst log, entry ∈ sinceStart inst (.startDl other :: log) := by
  intro entry hentry
  rw [sinceStart, if_neg hne]
  exact List.mem_cons_of_mem _ hentry

theorem mem_sinceStart_endDl (rsp : OmciMsg) :
    ∀ entry ∈ sinceStart inst log, entry ∈ sinceStart inst (.endDl other rsp :: log) :=
  fun _ hentry => List.mem_cons_of_mem _ hentry

theorem mem_sinceStart_stored (msg : OmciMsg) :
    ∀ entry ∈ sinceStart inst log, entry ∈ sinceStart inst (.stored other msg data :: log) :=
  fun _ hentry => List.mem_cons_of_mem _ hentry

theorem mem_sinceStart_written (valid : Bool) :
    ∀ entry ∈ sinceStart inst log, entry ∈ sinceStart inst (.written other data valid :: log) :=
  fun _ hentry => List.mem_cons_of_mem _ hentry

end Log

/-! ## One event -/

section Tracked

variable {images images' : SwImages} {inst : InstanceId} {me me' : SwImage}

/-- Replacing an entity, if its write goes on and no new one is complete. -/
theorem SwImages.Tracked.set (h : images.Tracked) (hme : images.me inst = some me)
    (hwriting : me.status = .writing → me'.status = .writing)
    (hcomplete : me'.status = .writingComplete →
      me.status = .writingComplete ∧ me'.isValid = me.isValid)
    (htimeout : me'.timeout = true → me'.status = .downloading) :
    (images.set inst me').Tracked where
  writing write hwrite := by
    obtain ⟨found, hfound, hstatus, hpassed⟩ := h.writing write hwrite
    by_cases hinst : write.instanceId = inst
    · rw [hinst] at hfound
      obtain rfl := Option.some.inj (hme.symm.trans hfound)
      refine ⟨me', ?_, hwriting hstatus, hpassed⟩
      rw [SwImages.set_me, hinst, Function.update_self]
    · refine ⟨found, ?_, hstatus, hpassed⟩
      rw [SwImages.set_me, Function.update_of_ne hinst]
      exact hfound
  distinct := h.distinct
  complete other found hfound hstatus := by
    rcases SwImages.found_of_set hfound with ⟨rfl, rfl⟩ | ⟨hinst, hfound⟩
    · obtain ⟨hbefore, hvalid⟩ := hcomplete hstatus
      rw [hvalid]
      exact h.complete other me hme hbefore
    · exact h.complete other found hfound hstatus
  timeout other found hfound hpending := by
    rcases SwImages.found_of_set hfound with ⟨rfl, rfl⟩ | ⟨hinst, hfound⟩
    · exact htimeout hpending
    · exact h.timeout other found hfound hpending
  outcomes := h.outcomes

theorem SwImages.Tracked.log (h : images.Tracked) {entry : SwImageLog}
    (hgrows : ∀ inst, ∀ old ∈ sinceStart inst images.log,
      old ∈ sinceStart inst (entry :: images.log)) (houtcomes : Outcomes (entry :: images.log)) :
    SwImages.Tracked { images with log := entry :: images.log } where
  writing write hwrite := by
    obtain ⟨me, hme, hstatus, hpassed⟩ := h.writing write hwrite
    exact ⟨me, hme, hstatus, hpassed.mono (hgrows _)⟩
  distinct := h.distinct
  complete inst me hme hstatus := by
    obtain ⟨hvalid, hfinished⟩ := h.complete inst me hme hstatus
    exact ⟨hvalid, hfinished.mono (hgrows inst)⟩
  timeout := h.timeout
  outcomes := houtcomes

theorem SwImages.Tracked.of_eq (h : images.Tracked) (hme : images'.me = images.me)
    (hwrites : images'.writes = images.writes) (hlog : images'.log = images.log) :
    images'.Tracked := by
  obtain ⟨hwriting, hdistinct, hcomplete, htimeout, houtcomes⟩ := h
  constructor
  · rwa [hwrites, hme, hlog]
  · rwa [hwrites]
  · rwa [hme, hlog]
  · rwa [hme]
  · rwa [hlog]

/-- The status and validity of an entity after a section. -/
theorem status_noteSection {msg rsp : OmciMsg} {after : SwImage}
    (hresult : dlSection me msg (rspCreate msg) = some (after, rsp)) :
    (me.noteSection after msg rsp).status = me.status ∧
      (me.noteSection after msg rsp).isValid = me.isValid ∧
      (me.noteSection after msg rsp).timeout = me.timeout := by
  have hafter : after.status = me.status ∧ after.isValid = me.isValid ∧
      after.timeout = me.timeout := by
    have hended := dlSection_ended me msg (rspCreate msg)
    rw [hresult] at hended
    cases hended with
    | refused => exact ⟨rfl, rfl, rfl⟩
    | dropped => simp
    | copied => simp
  rw [SwImage.noteSection]
  split <;> exact hafter

section Kept

variable (h : images.Tracked) (hme : images.me inst = some me)
include h hme

theorem SwImages.Tracked.set_same
    (me' : SwImage) (hstatus : me'.status = me.status) (hvalid : me'.isValid = me.isValid)
    (htimeout : me'.timeout = me.timeout) : (images.set inst me').Tracked := by
  apply h.set hme
  · intro hwriting
    rw [hstatus, hwriting]
  · intro hcomplete
    exact ⟨hstatus.symm.trans hcomplete, hvalid⟩
  · intro hpending
    rw [hstatus]
    exact h.timeout inst me hme (htimeout.symm.trans hpending)

theorem SwImages.Tracked.activate
    (env : SwImageEnv) (rsp : OmciMsg) :
    (activateImageActionHandle images env inst me rsp).images.Tracked := by
  have hsame (other : SwImages) (hother : other.Tracked) (cantReboot : BitVec 32) :
      SwImages.Tracked { other with cantReboot := cantReboot } := hother.of_eq rfl rfl rfl
  rw [activateImageActionHandle]
  dsimp only
  split
  · exact h
  · have hstarted := hsame images h (images.cantReboot + 1)
    split
    · exact hstarted
    · split
      · exact hstarted
      · rename_i me2 hme2
        have hfirst := hstarted.set_same hme { me with isActive := true } rfl rfl rfl
        have hme2' : ({ images with cantReboot := images.cantReboot + 1 }.set inst
            { me with isActive := true }).me (inst ^^^ 1) = some me2 := by
          rw [SwImages.set_me, Function.update_of_ne (xor_one_ne inst)]
          exact hme2
        have hboth := hfirst.set_same hme2' { me2 with isActive := false } rfl rfl rfl
        split <;> exact hboth

theorem SwImages.Tracked.commit
    (env : SwImageEnv) (rsp : OmciMsg) :
    (commitImageActionHandle images env inst me rsp).images.Tracked := by
  rw [commitImageActionHandle]
  dsimp only
  split
  · exact h
  · split
    · exact h
    · have hfirst := h.set_same hme { me with isCommitted := true } rfl rfl rfl
      split
      · exact hfirst.of_eq rfl rfl rfl
      · rename_i me2 hme2
        have hboth := hfirst.set_same hme2 { me2 with isCommitted := false } rfl rfl rfl
        split <;> exact hboth.of_eq rfl rfl rfl

/-- START_DL forgets what was logged for its entity. -/
theorem SwImages.Tracked.startDl
    {env : SwImageEnv} {msg : OmciMsg} (hguard : OutcomeGuard images (.startDl inst env msg))
    (rsp : OmciMsg) : (startDlActionHandle images env inst me msg rsp).images.Tracked := by
  obtain ⟨hfree, haccepts⟩ := hguard
  rw [startDlActionHandle]
  dsimp only
  have hcases := startDl_cases env inst me msg rsp
  constructor
  · intro write hwrite
    obtain ⟨found, hfound, hstatus, hpassed⟩ := h.writing write hwrite
    have hne := hfree write hwrite
    refine ⟨found, ?_, hstatus, hpassed.mono (mem_sinceStart_startDl hne.symm)⟩
    dsimp only
    rw [SwImages.set_me, Function.update_of_ne hne]
    exact hfound
  · exact h.distinct
  · intro other found hfound hstatus
    rcases SwImages.found_of_set hfound with ⟨rfl, rfl⟩ | ⟨hinst, hfound⟩
    · exfalso
      rcases hcases with ⟨bytes, _, hstarted⟩ | ⟨hrefused, _, hsame, _⟩
      · rw [hstarted] at hstatus
        cases hstatus
      · have haccepted := haccepts me hme (hsame.symm.trans hstatus)
        rw [hrefused] at haccepted
        cases haccepted
    · obtain ⟨hvalid, hfinished⟩ := h.complete other found hfound hstatus
      exact ⟨hvalid, hfinished.mono (mem_sinceStart_startDl (Ne.symm hinst))⟩
  · intro other found hfound hpending
    rcases SwImages.found_of_set hfound with ⟨rfl, rfl⟩ | ⟨hinst, hfound⟩
    · rcases hcases with ⟨bytes, _, hstarted⟩ | ⟨_, _, _, htimeout⟩
      · rw [hstarted]
        rfl
      · rw [htimeout] at hpending
        cases hpending
    · exact h.timeout other found hfound hpending
  · exact h.outcomes

/-- An image that goes to the flash writer has passed the checks. -/
theorem SwImages.Tracked.stored
    {msg rsp : OmciMsg} (hinst : swImageId inst = inst) (hstatus : me.status = .downloading)
    (hcrc : me.crc = some (msg.field32 0)) (hsize : me.imageSize = msg.field32 4)
    (hresult : rsp.result ≠ mrCmdSuccess) :
    SwImages.Tracked
      { images.set inst { me with timeout := false, data := none, status := .writing } with
        cantReboot := images.cantReboot + 1
        writes := ⟨swImageId inst, me.image⟩ :: images.writes
        log := .endDl inst rsp :: .stored inst msg me.image :: images.log } := by
  have hother : ∀ write ∈ images.writes, write.instanceId ≠ inst := by
    intro write hwrite hsame
    obtain ⟨found, hfound, hwriting, _⟩ := h.writing write hwrite
    rw [hsame, hme] at hfound
    obtain rfl := Option.some.inj hfound
    rw [hstatus] at hwriting
    cases hwriting
  have hgrows : ∀ other, ∀ old ∈ sinceStart other images.log,
      old ∈ sinceStart other (.endDl inst rsp :: .stored inst msg me.image :: images.log) :=
    fun other old hold => mem_sinceStart_endDl rsp old (mem_sinceStart_stored msg old hold)
  have hpassed : Passed inst (.endDl inst rsp :: .stored inst msg me.image :: images.log)
      me.image := by
    refine ⟨msg, List.mem_cons_of_mem _ List.mem_cons_self, ?_⟩
    rw [SwImage.crc] at hcrc
    rw [← hsize]
    split at hcrc
    · rename_i hle
      exact ⟨hle, Option.some.inj hcrc⟩
    · cases hcrc
  constructor
  · intro write hwrite
    rcases List.mem_cons.mp hwrite with hnew | hold
    · subst hnew
      dsimp only
      rw [hinst]
      exact ⟨_, Function.update_self .., rfl, hpassed⟩
    · obtain ⟨found, hfound, hwriting, hold'⟩ := h.writing write hold
      refine ⟨found, ?_, hwriting, hold'.mono (hgrows _)⟩
      dsimp only
      rw [SwImages.set_me, Function.update_of_ne (hother write hold)]
      exact hfound
  · apply List.pairwise_cons.mpr
    refine ⟨?_, h.distinct⟩
    intro write hwrite
    dsimp only
    rw [hinst]
    exact (hother write hwrite).symm
  · intro other found hfound hcomplete
    rcases SwImages.found_of_set hfound with ⟨rfl, rfl⟩ | ⟨hsame, hfound⟩
    · cases hcomplete
    · obtain ⟨hvalid, hfinished⟩ := h.complete other found hfound hcomplete
      exact ⟨hvalid, hfinished.mono (hgrows other)⟩
  · intro other found hfound hpending
    rcases SwImages.found_of_set hfound with ⟨rfl, rfl⟩ | ⟨hsame, hfound⟩
    · cases hpending
    · exact h.timeout other found hfound hpending
  · exact ⟨fun hsuccess => absurd hsuccess hresult, h.outcomes⟩

end Kept

/-- The other elements have other keys. -/
theorem ne_of_mem_eraseIdx {α β : Type} {f : α → β} {xs : List α} {i : Nat} {x y : α}
    (hdistinct : xs.Pairwise fun first second => f first ≠ f second) (hx : xs[i]? = some x)
    (hy : y ∈ xs.eraseIdx i) : f y ≠ f x := by
  induction xs generalizing i with
  | nil => cases hy
  | cons head xs ih =>
      obtain ⟨hhead, hrest⟩ := List.pairwise_cons.mp hdistinct
      cases i with
      | zero =>
          obtain rfl := Option.some.inj hx
          exact (hhead y hy).symm
      | succ i =>
          rw [List.getElem?_cons_succ] at hx
          rcases List.mem_cons.mp hy with hfirst | hlater
          · rw [hfirst]
            exact hhead x (List.mem_of_getElem? hx)
          · exact ih hrest hx hlater

/-- The flash writer calls back. -/
theorem SwImages.Tracked.endDlCb (h : images.Tracked) {i : Nat} {write : FlashWrite}
    (hwrite : images.writes[i]? = some write) (hme : images.me write.instanceId = some me)
    (version : List Byte) (valid : Bool) :
    SwImages.Tracked
      { images.set write.instanceId (me.endWrite version valid) with
        writes := images.writes.eraseIdx i
        cantReboot := images.cantReboot - 1
        log := .written write.instanceId write.data valid :: images.log } := by
  obtain ⟨found, hfound, hstatus, hpassed⟩ := h.writing write (List.mem_of_getElem? hwrite)
  obtain rfl := Option.some.inj (hme.symm.trans hfound)
  have hgrows : ∀ other, ∀ old ∈ sinceStart other images.log,
      old ∈ sinceStart other (.written write.instanceId write.data valid :: images.log) :=
    fun other old hold => mem_sinceStart_written valid old hold
  constructor
  · intro other hother
    have hne := ne_of_mem_eraseIdx h.distinct hwrite hother
    obtain ⟨found', hfound', hwriting, hpassed'⟩ :=
      h.writing other (List.mem_of_mem_eraseIdx hother)
    refine ⟨found', ?_, hwriting, hpassed'.mono (hgrows _)⟩
    dsimp only
    rw [SwImages.set_me, Function.update_of_ne hne]
    exact hfound'
  · exact h.distinct.eraseIdx i
  · intro other found' hfound' hcomplete
    rcases SwImages.found_of_set hfound' with ⟨rfl, rfl⟩ | ⟨hsame, hfound'⟩
    · rw [SwImage.endWrite] at hcomplete ⊢
      split at hcomplete
      · rename_i hvalid
        rw [if_pos hvalid]
        refine ⟨rfl, write.data, hpassed.mono (hgrows _), ?_⟩
        rw [hvalid]
        exact List.mem_cons_self
      · rw [show me.status = .writingComplete from hcomplete] at hstatus
        cases hstatus
    · obtain ⟨hvalid, hfinished⟩ := h.complete other found' hfound' hcomplete
      exact ⟨hvalid, hfinished.mono (hgrows other)⟩
  · intro other found' hfound' hpending
    rcases SwImages.found_of_set hfound' with ⟨rfl, rfl⟩ | ⟨hsame, hfound'⟩
    · have htimeout : me.timeout = true := by
        rw [SwImage.endWrite] at hpending
        split at hpending <;> exact hpending
      rw [h.timeout _ me hme htimeout] at hstatus
      cases hstatus
    · exact h.timeout other found' hfound' hpending
  · exact ⟨fun _ => hpassed, h.outcomes⟩

/-- END_DL for an entity whose image is not written. -/
theorem SwImages.Tracked.endDl (h : images.Tracked) (hme : images.me inst = some me)
    {env : SwImageEnv} {msg rsp : OmciMsg} {after : SwImage} {err : OmciError}
    (hend : endDl env inst me msg (rspCreate msg) = some (after, err, rsp, none)) :
    SwImages.Tracked { images.set inst after with log := .endDl inst rsp :: images.log } := by
  have hended := endDl_ended env inst me msg (rspCreate msg)
  have hpending := h.timeout inst me hme
  rw [hend] at hended
  -- an image that is not written leaves nothing to prove but the log
  have hlog (hset : (images.set inst after).Tracked)
      (hsuccess : rsp.result = mrCmdSuccess → Finished inst images.log) :
      SwImages.Tracked
        { images.set inst after with log := .endDl inst rsp :: (images.set inst after).log } :=
    hset.log (fun _ => mem_sinceStart_endDl rsp) ⟨hsuccess, h.outcomes⟩
  cases hended with
  | busy _ _ hnot | idle _ _ hnot =>
      exact hlog (h.set_same hme _ rfl rfl rfl) fun heq => absurd heq hnot
  | complete _ hstatus =>
      apply hlog
      · apply h.set hme
        · intro hwriting
          rw [hstatus] at hwriting
          cases hwriting
        · nofun
        · intro htimeout
          rw [hstatus] at hpending
          cases hpending htimeout
      · intro _
        exact (h.complete inst me hme hstatus).2
  | inUse _ hstatus hnot =>
      apply hlog
      · apply h.set hme
        · exact id
        · intro hcomplete
          exact ⟨hcomplete, rfl⟩
        · nofun
      · exact fun heq => absurd heq hnot
  | failed _ _ hstatus hnot =>
      apply hlog
      · apply h.set hme
        · intro hwriting
          rw [hstatus] at hwriting
          cases hwriting
        · nofun
        · nofun
      · exact fun heq => absurd heq hnot

/-- No event takes back what is known. -/
theorem SwImages.Tracked.step (h : images.Tracked) {event : SwImageEvent}
    (hguard : OutcomeGuard images event) (hstep : swImageStep images event = some images') :
    images'.Tracked := by
  cases swImageStep_cases hstep with
  | startDl env msg hme => exact h.startDl hme hguard _
  | dlSection msg hme hafter =>
      obtain ⟨hstatus, hvalid, htimeout⟩ := status_noteSection hafter
      exact h.set_same hme _ hstatus hvalid htimeout
  | endDl env msg hme hend => exact h.endDl hme hend
  | @stored inst me _ _ _ _ env msg hme hend =>
      have hended := endDl_ended env inst me msg (rspCreate msg)
      rw [hend] at hended
      cases hended with
      | stored _ hstatus hcrc hsize hnot => exact h.stored hme hguard hstatus hcrc hsize hnot
  | activateImage env msg hme => exact h.activate hme env _
  | commitImage env msg hme => exact h.commit hme env _
  | timeout hme htimeout =>
      apply h.set hme
      · intro hwriting
        rw [h.timeout _ _ hme htimeout] at hwriting
        cases hwriting
      · nofun
      · nofun
  | endDlCb version valid hjob hme => exact h.endDlCb hjob hme version valid
  | commitCb hjob => exact h.of_eq rfl rfl rfl

/-- The callback lets go of the entity exactly if the write was successful. -/
theorem SwImages.Tracked.released (h : images.Tracked) {i : Nat} {version : List Byte}
    {valid : Bool} {write : FlashWrite} (hwrite : images.writes[i]? = some write)
    (hstep : swImageStep images (.endDlCb i version valid) = some images')
    (hme' : images'.me write.instanceId = some me') : me'.status ≠ .writing ↔ valid = true := by
  obtain ⟨me, hme, hstatus, _⟩ := h.writing write (List.mem_of_getElem? hwrite)
  obtain ⟨job, hjob, hcb⟩ := Option.bind_eq_some_iff.mp hstep
  obtain rfl := Option.some.inj (hwrite.symm.trans hjob)
  obtain ⟨found, hfound, rfl⟩ := Option.map_eq_some_iff.mp hcb
  obtain rfl := Option.some.inj (hme.symm.trans hfound)
  dsimp only at hme'
  rw [SwImages.set_me, Function.update_self] at hme'
  obtain rfl := Option.some.inj hme'
  rw [SwImage.endWrite]
  cases valid with
  | true => simp
  | false => simp [hstatus]

end Tracked

/-! ## Runs -/

/-- What the OLT may rely on: END_DL reports success, and images are marked valid, only if the
image of the latest START_DL passed the checks and was written; and a callback lets go of the
entity exactly if the write was successful. -/
structure DownloadOutcome (images : SwImages) : Prop where
  outcomes : Outcomes images.log
  valid : ∀ inst me, images.me inst = some me → me.status = .writingComplete → me.isValid = true
  released : ∀ i version valid images' write me',
    swImageStep images (.endDlCb i version valid) = some images' →
    images.writes[i]? = some write → images'.me write.instanceId = some me' →
    (me'.status ≠ .writing ↔ valid = true)

/-- In every run in which START_DL neither comes during the write of its image nor is refused
between the write and the END_DL that reports it. -/
theorem swImage_downloadOutcome (attrs : InstanceId → Option OmciMeSwImage) {images : SwImages}
    (hreach : ReachOn swImageStep OutcomeGuard (swImagesInit attrs) images) :
    DownloadOutcome images := by
  have hstart : (swImagesInit attrs).Tracked := by
    constructor
    · nofun
    · exact .nil
    · intro inst me hme hstatus
      obtain ⟨_, _, rfl⟩ := Option.map_eq_some_iff.mp hme
      cases hstatus
    · intro inst me hme htimeout
      obtain ⟨_, _, rfl⟩ := Option.map_eq_some_iff.mp hme
      cases htimeout
    · trivial
  have htracked : images.Tracked :=
    hreach.invariant hstart fun before event after h hguard hstep => h.step hguard hstep
  constructor
  · exact htracked.outcomes
  · intro inst me hme hstatus
    exact (htracked.complete inst me hme hstatus).1
  · intro i version valid images' write me' hstep hwrite hme'
    exact htracked.released hwrite hstep hme'

/-! ## An image of one byte -/

/-- START_DL, the only section and END_DL. -/
def sampleDownload : List SwImageEvent :=
  [.startDl 1 sampleEnv (sampleRequest 0x53 [0, 0, 0, 0, 1]),
    .dlSection 1 (sampleRequest 0x54 [0, 0xff]),
    .endDl 1 sampleEnv (sampleRequest 0x55 [0, 0, 0, 0xff, 0, 0, 0, 1])]

def sampleReport : List SwImageEvent :=
  [.endDlCb 0 (List.replicate 14 0) true,
    .endDl 1 sampleEnv (sampleRequest 0x55 [0, 0, 0, 0xff, 0, 0, 0, 1])]

def reportsSuccess : List SwImageLog → Bool
  | .endDl inst rsp :: _ => inst == 1 && rsp.result == mrCmdSuccess
  | _ => false

/-- A download that ends well. -/
theorem swImage_downloadOutcome_reported :
    ∃ images : SwImages, reportsSuccess images.log = true ∧ DownloadOutcome images := by
  have hrun : (execOn swImageStep OutcomeGuard (swImagesInit sampleImages)
      (sampleDownload ++ sampleReport)).any
      (fun images => decide (reportsSuccess images.log = true)) = true := by
    decide
  obtain ⟨images, hreach, hsuccess⟩ := exists_reachOn_of_execOn hrun
  exact ⟨images, hsuccess, swImage_downloadOutcome sampleImages hreach⟩

/-- END_DL reports success right after a write that began before the latest START_DL. -/
def reportsOld : List SwImageLog → Bool
  | .endDl inst rsp :: .written other _ true :: .startDl third :: _ =>
      inst == 1 && other == 1 && third == 1 && rsp.result == mrCmdSuccess
  | _ => false

theorem not_outcomes_of_reportsOld {log : List SwImageLog} (hold : reportsOld log = true) :
    ¬ Outcomes log := by
  intro houtcomes
  unfold reportsOld at hold
  split at hold
  · rename_i inst rsp other data third rest
    simp only [Bool.and_eq_true, beq_iff_eq] at hold
    obtain ⟨⟨⟨hinst, hother⟩, hthird⟩, hresult⟩ := hold
    subst hinst
    subst hother
    subst hthird
    obtain ⟨found, hpassed, _⟩ := houtcomes.1 hresult
    obtain ⟨msg, hstored, _⟩ := hpassed
    simp [sinceStart] at hstored
  · cases hold

/-- A second START_DL during the write: END_DL reports the success of the first image. And a
write that fails leaves the entity writing. -/
theorem swImage_not_downloadOutcome :
    (∃ images, Reach swImageStep (swImagesInit sampleImages) images ∧ ¬ DownloadOutcome images) ∧
      ∃ images, Reach swImageStep (swImagesInit sampleImages) images ∧ images.writes.length = 0 ∧
        (images.me 1).any (fun me => decide (me.status = .writing)) = true := by
  constructor
  · have hrun : (execOn swImageStep (fun _ _ => True) (swImagesInit sampleImages)
        (sampleDownload ++ [.startDl 1 sampleEnv (sampleRequest 0x53 [0, 0, 0, 0, 1])] ++
          sampleReport)).any (fun images => decide (reportsOld images.log = true)) = true := by
      decide
    obtain ⟨images, hreach, hold⟩ := exists_reachOn_of_execOn hrun
    exact ⟨images, hreach, fun houtcome => not_outcomes_of_reportsOld hold houtcome.outcomes⟩
  · have hrun : (execOn swImageStep (fun _ _ => True) (swImagesInit sampleImages)
        (sampleDownload ++ [.endDlCb 0 (List.replicate 14 0) false])).any
        (fun images => decide (images.writes.length = 0 ∧
          (images.me 1).any (fun me => decide (me.status = .writing)) = true)) = true := by
      decide
    exact exists_reachOn_of_execOn hrun

end FalconGpon.Omci
