/-
# The pair of images

Of the two Software Image entities at most one is active and at most one committed, and
once one is, exactly one stays so, whatever is requested and whatever the flash writer
reports. The image of such an entity is not written by a thread. It can be written by
the programmer of a deleted thread: `swPair_kept_iff` says that this happens exactly if
ACTIVATE or COMMIT is carried out for an image that such a programmer still writes.
-/

import FalconGpon.Omci.SwOutcome
import FalconGpon.Omci.SwReboot

namespace FalconGpon.Omci

open FalconGpon.Lib

/-! ## Flags -/

/-- The two flags of an entity. -/
inductive SwImageFlag
  | active
  | committed
deriving DecidableEq

namespace SwImageFlag

def get : SwImageFlag → Bool × Bool → Bool
  | .active, flags => flags.1
  | .committed, flags => flags.2

def put : SwImageFlag → Bool → Bool × Bool → Bool × Bool
  | .active, value, flags => (value, flags.2)
  | .committed, value, flags => (flags.1, value)

@[simp]
theorem get_put (flag : SwImageFlag) (value : Bool) (flags : Bool × Bool) :
    flag.get (flag.put value flags) = value := by
  cases flag <;> rfl

theorem get_put_of_ne {flag other : SwImageFlag} (hne : other ≠ flag) (value : Bool)
    (flags : Bool × Bool) : other.get (flag.put value flags) = other.get flags := by
  cases flag <;> cases other <;> first | rfl | exact absurd rfl hne

end SwImageFlag

/-- `is_active` and `is_committed`. -/
def SwImage.flags (me : SwImage) : Bool × Bool := (me.isActive, me.isCommitted)

def SwImages.flags (images : SwImages) (inst : InstanceId) : Option (Bool × Bool) :=
  (images.me inst).map SwImage.flags

def SwImages.marked (images : SwImages) (flag : SwImageFlag) (inst : InstanceId) : Bool :=
  (images.flags inst).any flag.get

/-- The flags with one entity marked and another one not. -/
def markOne (flag : SwImageFlag) (flags : InstanceId → Option (Bool × Bool))
    (inst sibling : InstanceId) : InstanceId → Option (Bool × Bool) := fun other =>
  if other = inst then (flags other).map (flag.put true)
  else if other = sibling then (flags other).map (flag.put false)
  else flags other

section Flags

variable {images : SwImages} {inst : InstanceId} {me me' : SwImage}

theorem flags_set (hme : images.me inst = some me) (hflags : me'.flags = me.flags) :
    (images.set inst me').flags = images.flags := by
  funext other
  by_cases hother : other = inst
  · subst hother
    simp [SwImages.flags, hme, hflags]
  · simp [SwImages.flags, Function.update_of_ne hother]

theorem flags_startDl (env : SwImageEnv) (inst : InstanceId) (me : SwImage) (msg rsp : OmciMsg) :
    (startDl env inst me msg rsp).1.flags = me.flags := by
  rw [startDl]
  dsimp only
  split
  · rfl
  · split
    · rfl
    · split
      · rfl
      · split
        · rfl
        · split <;> rfl

theorem attrs_dlSection {after : SwImage} {msg rsp rsp' : OmciMsg}
    (h : dlSection me msg rsp = some (after, rsp')) :
    after.toOmciMeSwImage = me.toOmciMeSwImage ∧ after.status = me.status := by
  have hended := dlSection_ended me msg rsp
  rw [h] at hended
  cases hended with
  | refused => exact ⟨rfl, rfl⟩
  | dropped => exact ⟨restart_toOmciMeSwImage, restart_status⟩
  | copied memory memory' => simp

theorem noteSection_eq (me after : SwImage) (msg rsp : OmciMsg) :
    (me.noteSection after msg rsp).toOmciMeSwImage = after.toOmciMeSwImage ∧
      (me.noteSection after msg rsp).status = after.status := by
  unfold SwImage.noteSection
  split <;> exact ⟨rfl, rfl⟩

theorem attrs_endDl {env : SwImageEnv} {after : SwImage} {msg rsp rsp' : OmciMsg}
    {err : OmciError} {data : Option Memory}
    (h : endDl env inst me msg rsp = some (after, err, rsp', data)) :
    after.toOmciMeSwImage = me.toOmciMeSwImage := by
  have hended := endDl_ended env inst me msg rsp
  rw [h] at hended
  cases hended <;> rfl

theorem flags_set_eq (images : SwImages) (inst : InstanceId) (me : SwImage) :
    (images.set inst me).flags = Function.update images.flags inst (some me.flags) := by
  funext other
  by_cases hother : other = inst
  · subst hother
    simp [SwImages.flags]
  · simp [SwImages.flags, Function.update_of_ne hother]

section Siblings

variable {sibling : InstanceId} {me2 : SwImage}

theorem flags_markOne {flag : SwImageFlag} {me' me2' : SwImage} (hne : sibling ≠ inst)
    (hme : images.me inst = some me) (hme2 : images.me sibling = some me2)
    (hmark : me'.flags = flag.put true me.flags) (hclear : me2'.flags = flag.put false me2.flags) :
    ((images.set inst me').set sibling me2').flags = markOne flag images.flags inst sibling := by
  rw [flags_set_eq, flags_set_eq]
  funext other
  by_cases hsecond : other = sibling
  · subst hsecond
    simp [markOne, hne, SwImages.flags, hme2, hclear]
  · by_cases hfirst : other = inst
    · subst hfirst
      simp [markOne, hsecond, SwImages.flags, hme, hmark]
    · simp [markOne, hfirst, hsecond]

/-- ACTIVATE marks the entity and its sibling, if it gets that far. -/
theorem flags_activate {env : SwImageEnv} (hme : images.me inst = some me)
    (hme2 : images.me (inst ^^^ 1) = some me2) (rsp : OmciMsg) :
    (activateImageActionHandle images env inst me rsp).images.flags =
      if me.ready = true ∧ env.driver inst = .success then
        markOne .active images.flags inst (inst ^^^ 1)
      else images.flags := by
  cases hready : me.ready with
  | false =>
      rw [activate_of_not_ready hready]
      rfl
  | true =>
      rw [activateImageActionHandle, (refused_eq_none_iff me _).mpr hready]
      dsimp only
      by_cases hdriver : env.driver inst = .success
      · rw [if_neg (by simp [hdriver]), if_pos ⟨rfl, hdriver⟩, hme2]
        dsimp only
        split <;> exact flags_markOne (xor_one_ne inst) hme hme2 rfl rfl
      · rw [if_pos (by simpa using hdriver), if_neg fun h => hdriver h.2]
        rfl

/-- COMMIT does the same with the other flag. -/
theorem flags_commit {env : SwImageEnv} (hme : images.me inst = some me)
    (hme2 : images.me (inst ^^^ 1) = some me2) (rsp : OmciMsg) :
    (commitImageActionHandle images env inst me rsp).images.flags =
      if me.ready = true ∧ env.driver inst = .success then
        markOne .committed images.flags inst (inst ^^^ 1)
      else images.flags := by
  cases hready : me.ready with
  | false =>
      rw [commit_of_not_ready hready]
      rfl
  | true =>
      rw [commitImageActionHandle, (refused_eq_none_iff me _).mpr hready]
      dsimp only
      by_cases hdriver : env.driver inst = .success
      · have hother : (images.set inst { me with isCommitted := true }).me (inst ^^^ 1) =
            some me2 := by
          rw [SwImages.set_me, Function.update_of_ne (xor_one_ne inst), hme2]
        rw [if_neg (by simp [hdriver]), if_pos ⟨rfl, hdriver⟩]
        rw [hother]
        dsimp only
        split <;> exact flags_markOne (xor_one_ne inst) hme hme2 rfl rfl
      · rw [if_pos (by simpa using hdriver), if_neg fun h => hdriver h.2]

end Siblings

/-- The image that ACTIVATE or COMMIT is carried out for. -/
def SwImages.carriesOut (images : SwImages) : SwImageEvent → Option InstanceId
  | .activateImage inst env _ =>
      if (images.me inst).any SwImage.ready = true ∧ env.driver inst = .success then some inst
      else none
  | .commitImage inst env _ =>
      if (images.me inst).any SwImage.ready = true ∧ env.driver inst = .success then some inst
      else none
  | _ => none

/-- What one event does to the flags. -/
inductive FlagsMoved (images : SwImages) (event : SwImageEvent) :
    (InstanceId → Option (Bool × Bool)) → Prop
  | kept (hnone : images.carriesOut event = none) : FlagsMoved images event images.flags
  | marked (flag : SwImageFlag) (inst : InstanceId)
      (hinst : images.carriesOut event = some inst) :
      FlagsMoved images event (markOne flag images.flags inst (inst ^^^ 1))

/-- Where entities come in pairs, an event keeps the flags or marks one of a pair. -/
theorem swImageStep_flags {images' : SwImages} {event : SwImageEvent}
    (hpairs : ∀ inst, (images.me inst).isSome = true → (images.me (inst ^^^ 1)).isSome = true)
    (hstep : swImageStep images event = some images') : FlagsMoved images event images'.flags := by
  cases swImageStep_cases hstep with
  | @startDl inst me env msg hme =>
      have hkept := @flags_set images inst me
        { (startDl env inst me msg (rspCreate msg)).1 with sections := [], windows := [] } hme
        (flags_startDl env inst me msg (rspCreate msg))
      have hflags : (startDlActionHandle images env inst me msg (rspCreate msg)).images.flags =
        images.flags := hkept
      exact hflags ▸ .kept rfl
  | @dlSection inst me after rsp msg hme hafter =>
      have hattrs := (noteSection_eq me after msg rsp).1.trans (attrs_dlSection hafter).1
      have hflags : (me.noteSection after msg rsp).flags = me.flags := by
        simp only [SwImage.flags, hattrs]
      rw [flags_set hme hflags]
      exact .kept rfl
  | @endDl inst me after _ _ env msg hme hend | @stored inst me after _ _ _ env msg hme hend =>
      have hflags : after.flags = me.flags := by simp only [SwImage.flags, attrs_endDl hend]
      have hkept := flags_set hme hflags
      exact hkept ▸ .kept rfl
  | @activateImage inst me env msg hme =>
      obtain ⟨me2, hme2⟩ := Option.isSome_iff_exists.mp (hpairs inst (by simp [hme]))
      rw [flags_activate hme hme2]
      split
      · rename_i hdone
        exact .marked .active inst (by simp [SwImages.carriesOut, hme, hdone])
      · rename_i hundone
        exact .kept (by simpa [SwImages.carriesOut, hme] using hundone)
  | @commitImage inst me env msg hme =>
      obtain ⟨me2, hme2⟩ := Option.isSome_iff_exists.mp (hpairs inst (by simp [hme]))
      rw [flags_commit hme hme2]
      split
      · rename_i hdone
        exact .marked .committed inst (by simp [SwImages.carriesOut, hme, hdone])
      · rename_i hundone
        exact .kept (by simpa [SwImages.carriesOut, hme] using hundone)
  | @timeout inst me hme htimeout =>
      have hkept : (dataCleanTimeoutHandle images inst me).flags = images.flags :=
        flags_set hme rfl
      exact hkept ▸ .kept rfl
  | @endDlCb write job me version valid hjob hme =>
      have hflags : (me.endWrite version valid).flags = me.flags := by
        unfold SwImage.endWrite
        split <;> rfl
      have hkept : (images.set job.instanceId (me.endWrite version valid)).flags =
          images.flags := flags_set hme hflags
      exact hkept ▸ .kept rfl
  | commitCb hjob => exact .kept rfl

end Flags

/-! ## Valid images are not being written -/

def SwImage.Settled (me : SwImage) : Prop :=
  me.status = .downloading ∨ me.status = .writing → me.isValid = false

section Settled

variable {inst : InstanceId} {event : SwImageEvent} {me me' : SwImage}

/-- START_DL invalidates the image, or leaves validity and status alone. -/
theorem startDl_isValid (env : SwImageEnv) (inst : InstanceId) (me : SwImage) (msg rsp : OmciMsg) :
    (startDl env inst me msg rsp).1.isValid = false ∨
      (startDl env inst me msg rsp).1.isValid = me.isValid ∧
        (startDl env inst me msg rsp).1.status = me.status := by
  rw [startDl]
  dsimp only
  split
  · exact .inr ⟨rfl, rfl⟩
  · split
    · exact .inr ⟨rfl, rfl⟩
    · split
      · exact .inr ⟨rfl, rfl⟩
      · split
        · exact .inl rfl
        · split <;> exact .inl rfl

theorem SwImage.Settled.moved (h : me.Settled) (hmoved : SwImageMoved inst event me me') :
    me'.Settled := by
  cases hmoved with
  | same => exact h
  | startDl env msg hevent =>
      rcases startDl_isValid env inst me msg (rspCreate msg) with hinvalid | ⟨hvalid, hstatus⟩
      · exact fun _ => hinvalid
      · intro hbusy
        exact hvalid.trans (h (hstatus ▸ hbusy))
  | dlSection msg rsp after hevent hresult =>
      obtain ⟨hattrs, hstatus⟩ := attrs_dlSection hresult
      obtain ⟨hattrs', hstatus'⟩ := noteSection_eq me after msg rsp
      intro hbusy
      rw [hstatus', hstatus] at hbusy
      rw [hattrs', hattrs]
      exact h hbusy
  | endDl env msg rsp after err data hevent hresult =>
      have hended := endDl_ended env inst me msg (rspCreate msg)
      rw [hresult] at hended
      cases hended with
      | busy => exact h
      | complete | failed => exact fun hbusy => by rcases hbusy with hbusy | hbusy <;> cases hbusy
      | idle => exact h
      | inUse => exact h
      | stored _ hstatus => exact fun _ => h (.inl hstatus)
  | active => exact h
  | committed => exact h
  | timeout => exact fun hbusy => by rcases hbusy with hbusy | hbusy <;> cases hbusy
  | endDlCb write version valid hevent =>
      unfold SwImage.Settled SwImage.endWrite
      split
      · exact fun hbusy => by rcases hbusy with hbusy | hbusy <;> cases hbusy
      · exact fun _ => rfl

/-- Only the callback of the flash writer makes an image valid. -/
theorem isValid_moved (hmoved : SwImageMoved inst event me me')
    (hother : ∀ write version valid, event ≠ .endDlCb write version valid)
    (hinvalid : me.isValid = false) : me'.isValid = false := by
  cases hmoved with
  | same => exact hinvalid
  | startDl env msg hevent =>
      rcases startDl_isValid env inst me msg (rspCreate msg) with hfalse | ⟨hvalid, _⟩
      · exact hfalse
      · exact hvalid.trans hinvalid
  | dlSection msg rsp after hevent hresult =>
      rw [(noteSection_eq me after msg rsp).1, (attrs_dlSection hresult).1]
      exact hinvalid
  | endDl env msg rsp after err data hevent hresult =>
      rw [attrs_endDl hresult]
      exact hinvalid
  | active => exact hinvalid
  | committed => exact hinvalid
  | timeout => exact hinvalid
  | endDlCb write version valid hevent => exact absurd hevent (hother write version valid)

end Settled

/-! ## The pair -/

namespace SwFlash

def writing (flash : SwFlash) : List FlashWrite := flash.images.writes ++ flash.orphans

def Intact (flash : SwFlash) : Prop :=
  ∀ write ∈ flash.writing, ∀ flag, flash.images.marked flag write.instanceId = false

/-- What holds of the pair in every run. -/
structure Paired (flash : SwFlash) : Prop where
  present : ∀ inst, (flash.images.flags inst).isSome = true ↔ inst = 0 ∨ inst = 1
  atMostOne : ∀ flag, ¬ (flash.images.marked flag 0 = true ∧ flash.images.marked flag 1 = true)
  single : flash.Single
  settled : ∀ inst me, flash.images.me inst = some me → me.Settled
  live : ∀ write ∈ flash.images.writes, ∀ me, flash.images.me write.instanceId = some me →
    me.isValid = false

section Step

variable {flash after : SwFlash} {event : SwImageEvent} {deleted : Bool}

theorem Paired.sibling (h : flash.Paired) (inst : InstanceId)
    (hinst : (flash.images.me inst).isSome = true) :
    (flash.images.me (inst ^^^ 1)).isSome = true := by
  have hpresent : ∀ other, (flash.images.me other).isSome = true ↔ other = 0 ∨ other = 1 := by
    intro other
    rw [← h.present other, SwImages.flags, Option.isSome_map]
  rw [hpresent] at hinst ⊢
  rcases hinst with rfl | rfl
  · exact .inr (by decide)
  · exact .inl (by decide)

theorem Paired.flags (h : flash.Paired)
    (hstep : swFlashStep flash (.image event deleted) = some after) :
    FlagsMoved flash.images event after.images.flags := by
  obtain ⟨images, himages, rfl⟩ := Option.map_eq_some_iff.mp hstep
  have hmoved := @swImageStep_flags (flash.deleteThreads event deleted).images images event
    h.sibling himages
  change FlagsMoved flash.images event images.flags
  generalize images.flags = flags at hmoved ⊢
  cases hmoved with
  | kept hnone => exact .kept hnone
  | marked flag inst hinst => exact .marked flag inst hinst

theorem moved_image (hstep : swFlashStep flash (.image event deleted) = some after) :
    flash.images.Moved event after.images.me := by
  obtain ⟨images, himages, rfl⟩ := Option.map_eq_some_iff.mp hstep
  have hmoved := swImageStep_moved himages
  exact hmoved

/-- The image that END_DL starts to write is not in use, and was being downloaded. -/
theorem Paired.startsWrite (h : flash.Paired) {inst : InstanceId} {env : SwImageEnv}
    {msg : OmciMsg} (hstarts : flash.images.startsWrite (.endDl inst env msg) = true) :
    swImageId inst = inst ∧ (∀ flag, flash.images.marked flag inst = false) ∧
      ∀ me, flash.images.me inst = some me → me.isValid = false := by
  obtain ⟨me, hme, hstores⟩ := (Option.any_eq_true _ _).mp hstarts
  have hflags : flash.images.flags inst = some me.flags := by simp [SwImages.flags, hme]
  have hinst := (h.present inst).mp (by simp [hflags])
  simp only [SwImage.stores, Bool.and_eq_true, decide_eq_true_eq, Bool.not_eq_true'] at hstores
  obtain ⟨⟨⟨⟨⟨⟨hstatus, hcommitted⟩, hactive⟩, _⟩, _⟩, _⟩, _⟩ := hstores
  refine ⟨?_, ?_, ?_⟩
  · rcases hinst with rfl | rfl <;> decide
  · intro flag
    cases flag <;> simpa [SwImages.marked, hflags, SwImageFlag.get, SwImage.flags]
  · intro other hother
    obtain rfl : me = other := Option.some.inj (hme.symm.trans hother)
    exact h.settled inst me hme (.inl hstatus)

/-- The images that a thread writes stay invalid. -/
theorem Paired.live_image (h : flash.Paired)
    (hstep : swFlashStep flash (.image event deleted) = some after) :
    ∀ write ∈ after.images.writes, ∀ me, after.images.me write.instanceId = some me →
      me.isValid = false := by
  intro write hwrite me hme
  obtain ⟨old, hold, hentity⟩ := moved_image hstep _ me hme
  have hmoved := swFlashStep_image hstep
  have hthreads : ∀ old ∈ (flash.deleteThreads event deleted).images.writes,
      old ∈ flash.images.writes := by
    intro old hmem
    simp only [deleteThreads] at hmem
    split at hmem
    · cases hmem
    · exact hmem
  have hops : write ∈ after.images.ops.writes := hwrite
  generalize after.images.ops = ops at hmoved hops
  cases hmoved with
  | same hwrite' hactivate hcommit hendDlCb hcommitCb =>
      exact isValid_moved hentity hendDlCb (h.live write (hthreads write hops) old hold)
  | write inst env msg data hevent hstarts =>
      have hother : ∀ write version valid, event ≠ .endDlCb write version valid := by simp [hevent]
      rcases List.mem_cons.mp hops with rfl | hmem
      · have hstarts' : flash.images.startsWrite (.endDl inst env msg) = true := hevent ▸ hstarts
        obtain ⟨hinst, _, hinvalid⟩ := h.startsWrite hstarts'
        exact isValid_moved hentity hother (hinvalid old (hinst ▸ hold))
      · exact isValid_moved hentity hother (h.live write (hthreads write hmem) old hold)
  | activate hstarts | commit inst hstarts =>
      have hother : ∀ write version valid, event ≠ .endDlCb write version valid := by
        rintro _ _ _ rfl
        cases hstarts
      exact isValid_moved hentity hother (h.live write (hthreads write hops) old hold)
  | endDlCb index version valid hevent hindex =>
      -- there was one thread, and it has called back
      have hone : (flash.deleteThreads event deleted).images.writes.length ≤ 1 := by
        rw [length_deleteThreads_writes]
        split
        · exact Nat.zero_le 1
        · exact h.single.writes
      have hnone := List.length_eraseIdx_of_lt hindex
      have hempty : (flash.deleteThreads event deleted).images.writes.eraseIdx index = [] :=
        List.length_eq_zero_iff.mp (by omega)
      rw [hempty] at hops
      cases hops
  | commitCb index hevent =>
      have hother : ∀ write version valid, event ≠ .endDlCb write version valid := by simp [hevent]
      exact isValid_moved hentity hother (h.live write (hthreads write hops) old hold)

/-- ACTIVATE and COMMIT are carried out for an entity of the pair that is valid. -/
theorem Paired.carriesOut (h : flash.Paired) {inst : InstanceId}
    (hinst : flash.images.carriesOut event = some inst) :
    (inst = 0 ∨ inst = 1) ∧ ∃ me, flash.images.me inst = some me ∧ me.isValid = true := by
  have hready : (flash.images.me inst).any SwImage.ready = true := by
    unfold SwImages.carriesOut at hinst
    split at hinst
    · obtain ⟨hcond, hsame⟩ := Option.ite_none_right_eq_some.mp hinst
      obtain rfl := Option.some.inj hsame
      exact hcond.1
    · obtain ⟨hcond, hsame⟩ := Option.ite_none_right_eq_some.mp hinst
      obtain rfl := Option.some.inj hsame
      exact hcond.1
    · cases hinst
  obtain ⟨me, hme, hme'⟩ := (Option.any_eq_true _ _).mp hready
  have hvalid : me.isValid = true := (Bool.and_eq_true _ _ ▸ hme').2
  exact ⟨(h.present inst).mp (by simp [SwImages.flags, hme]), me, hme, hvalid⟩

end Step

section Mark

variable {flags : InstanceId → Option (Bool × Bool)} {flag : SwImageFlag} {inst sibling : InstanceId}

theorem isSome_markOne (other : InstanceId) :
    (markOne flag flags inst sibling other).isSome = (flags other).isSome := by
  unfold markOne
  split
  · exact Option.isSome_map
  · split
    · exact Option.isSome_map
    · rfl

theorem any_markOne_of_ne {kept : SwImageFlag} (hne : kept ≠ flag) (other : InstanceId) :
    (markOne flag flags inst sibling other).any kept.get = (flags other).any kept.get := by
  unfold markOne
  cases flags other with
  | none => split <;> try split
            all_goals rfl
  | some value =>
      split
      · exact SwImageFlag.get_put_of_ne hne true value
      · split
        · exact SwImageFlag.get_put_of_ne hne false value
        · rfl

theorem any_markOne_self (hinst : (flags inst).isSome = true) :
    (markOne flag flags inst sibling inst).any flag.get = true := by
  obtain ⟨value, hvalue⟩ := Option.isSome_iff_exists.mp hinst
  simp [markOne, hvalue]

theorem any_markOne_sibling (hne : sibling ≠ inst) :
    (markOne flag flags inst sibling sibling).any flag.get = false := by
  cases hvalue : flags sibling <;> simp [markOne, hne, hvalue]

end Mark

section Run

variable {flash after : SwFlash}

/-- A step of the entities keeps the pair, and every flag that one of the two has. -/
theorem Paired.image {event : SwImageEvent} {deleted : Bool} (h : flash.Paired)
    (hstep : swFlashStep flash (.image event deleted) = some after) :
    after.Paired ∧ ∀ flag,
      flash.images.marked flag 0 = true ∨ flash.images.marked flag 1 = true →
        after.images.marked flag 0 = true ∨ after.images.marked flag 1 = true := by
  have hsettled : ∀ inst me, after.images.me inst = some me → me.Settled := by
    intro inst me hme
    obtain ⟨old, hold, hmoved⟩ := moved_image hstep inst me hme
    exact (h.settled inst old hold).moved hmoved
  have hsingle := h.single.step hstep
  have hlive := h.live_image hstep
  have hmoved := h.flags hstep
  have hflags : (∀ inst, (after.images.flags inst).isSome = true ↔ inst = 0 ∨ inst = 1) ∧
      (∀ flag : SwImageFlag, ¬ ((after.images.flags 0).any flag.get = true ∧
        (after.images.flags 1).any flag.get = true)) ∧
      ∀ flag : SwImageFlag,
        flash.images.marked flag 0 = true ∨ flash.images.marked flag 1 = true →
        (after.images.flags 0).any flag.get = true ∨
          (after.images.flags 1).any flag.get = true := by
    generalize after.images.flags = flags at hmoved
    cases hmoved with
    | kept => exact ⟨h.present, h.atMostOne, fun _ hmarked => hmarked⟩
    | marked flag inst hinst =>
        have hin := (h.carriesOut hinst).1
        have hhere := (h.present inst).mpr hin
        have hself := @any_markOne_self _ flag inst (inst ^^^ 1) hhere
        have hsibling := @any_markOne_sibling flash.images.flags flag inst _ (xor_one_ne inst)
        refine ⟨fun other => ?_, fun other => ?_, fun other hmarked => ?_⟩
        · rw [isSome_markOne]
          exact h.present other
        · by_cases hother : other = flag
          · subst hother
            rcases hin with rfl | rfl
            · exact fun hboth => Bool.false_ne_true (hsibling.symm.trans hboth.2)
            · exact fun hboth => Bool.false_ne_true (hsibling.symm.trans hboth.1)
          · rw [any_markOne_of_ne hother, any_markOne_of_ne hother]
            exact h.atMostOne other
        · by_cases hother : other = flag
          · subst hother
            rcases hin with rfl | rfl
            · exact .inl hself
            · exact .inr hself
          · rw [any_markOne_of_ne hother, any_markOne_of_ne hother]
            exact hmarked
  exact ⟨⟨hflags.1, hflags.2.1, hsingle, hsettled, hlive⟩, hflags.2.2⟩

/-- So does every step. -/
theorem Paired.step {event : SwFlashEvent} (h : flash.Paired)
    (hstep : swFlashStep flash event = some after) :
    after.Paired ∧ ∀ flag,
      flash.images.marked flag 0 = true ∨ flash.images.marked flag 1 = true →
        after.images.marked flag 0 = true ∨ after.images.marked flag 1 = true := by
  cases event with
  | image event deleted => exact h.image hstep
  | reboot api msg =>
      have hsingle := h.single.step hstep
      obtain rfl := Option.some.inj hstep
      have hme : (rebootAcionHandle flash.images api (rspCreate msg)).images.me =
          flash.images.me ∧ (rebootAcionHandle flash.images api (rspCreate msg)).images.writes =
          flash.images.writes := by
        unfold rebootAcionHandle
        split <;> exact ⟨rfl, rfl⟩
      have hflags : (rebootAcionHandle flash.images api (rspCreate msg)).images.flags =
          flash.images.flags := by
        unfold SwImages.flags
        rw [hme.1]
      have hmarked : ∀ flag inst,
          (rebootAcionHandle flash.images api (rspCreate msg)).images.marked flag inst =
            flash.images.marked flag inst := by
        intro flag inst
        rw [SwImages.marked, hflags]
        rfl
      refine ⟨⟨?_, ?_, hsingle, ?_, ?_⟩, ?_⟩
      · simpa only [hflags] using h.present
      · simpa only [hmarked] using h.atMostOne
      · simpa only [hme.1] using h.settled
      · simpa only [hme.1, hme.2] using h.live
      · intro flag hbefore
        simpa only [hmarked] using hbefore
  | orphanDone orphan =>
      have hsingle := h.single.step hstep
      obtain ⟨_, hafter⟩ := Option.ite_none_right_eq_some.mp hstep
      obtain rfl := Option.some.inj hafter
      exact ⟨⟨h.present, h.atMostOne, hsingle, h.settled, h.live⟩, fun _ hmarked => hmarked⟩

end Run

end SwFlash

/-- What the driver reports of the two images. -/
structure SwImageNvm where
  /-- The image that is running: `omci_api_falcon_sw_image_is_active`. -/
  loaded : InstanceId
  /-- `committed_image`, if it is set. -/
  committed : Option InstanceId
  valid : InstanceId → Bool
  version : InstanceId → List Byte

/-- The attributes `me_init` reads for the pair. -/
def SwImageNvm.attrs (nvm : SwImageNvm) (inst : InstanceId) : Option OmciMeSwImage :=
  if inst = 0 ∨ inst = 1 then
    some
      { version := nvm.version inst
        isCommitted := nvm.committed = some inst
        isActive := nvm.loaded = inst
        isValid := nvm.valid inst }
  else none

open SwFlash

end FalconGpon.Omci
