/-
# Runs of T-CONT requests

A request comes to one of a few outcomes (`TcontState.Outcome`), and what each of them keeps
follows from what it does to the mapping and to the T-CONTs. The main result is
`tcont_kept_iff`.
-/

import FalconGpon.Api.Tcont

namespace FalconGpon.Api

open FalconGpon.Lib

/-! ## The search -/

/-- What a search has found is one of the T-CONTs it looked at, or was found before; if there is
nothing, none of them can be used. -/
def TcontSearch.Sound (ctx : TcontCtx) (allocId : BitVec 32) (looked : List (BitVec 32))
    (free : Option (BitVec 32)) : TcontSearch → Prop
  | .found idx => idx ∈ looked ∧ (ctx.tcont idx).allocId = allocId
  | .firstFree idx => (idx ∈ looked ∨ free = some idx) ∧ (ctx.tcont idx).allocId = tcontFree
  | .failed => True
  | .exhausted => free = none ∧ ∀ idx ∈ looked,
      (ctx.tcont idx).allocId ≠ allocId ∧ (ctx.tcont idx).allocId ≠ tcontFree

section Search

variable {ctx : TcontCtx} {allocId : BitVec 32} {rest : List (BitVec 32)}
  {free : Option (BitVec 32)} {i : BitVec 32}

theorem TcontSearch.Sound.skip {search : TcontSearch}
    (h : search.Sound ctx allocId rest free) (halloc : (ctx.tcont i).allocId ≠ allocId)
    (hskip : (ctx.tcont i).allocId = tcontFree → free ≠ none) :
    search.Sound ctx allocId (i :: rest) free := by
  cases search with
  | found idx => exact ⟨List.mem_cons_of_mem _ h.1, h.2⟩
  | firstFree idx => exact ⟨h.1.imp_left (List.mem_cons_of_mem _), h.2⟩
  | failed => exact trivial
  | exhausted =>
      refine ⟨h.1, List.forall_mem_cons.mpr ⟨⟨halloc, fun hfree => hskip hfree h.1⟩, h.2⟩⟩

theorem TcontSearch.Sound.takeFree {search : TcontSearch}
    (h : search.Sound ctx allocId rest (some i)) : search.Sound ctx allocId (i :: rest) none := by
  cases search with
  | found idx => exact ⟨List.mem_cons_of_mem _ h.1, h.2⟩
  | firstFree idx =>
      refine ⟨.inl ?_, h.2⟩
      cases h.1 with
      | inl hrest => exact List.mem_cons_of_mem _ hrest
      | inr hsame => exact Option.some.inj hsame ▸ List.mem_cons_self
  | failed => exact trivial
  | exhausted => cases h.1

theorem tcontSearch_sound (env : TcontEnv) (last : GpeTcont) (rest : List (BitVec 32))
    (hfree : ∀ idx, free = some idx → (ctx.tcont idx).allocId = tcontFree) :
    (tcontSearch ctx env allocId rest free last).1.Sound ctx allocId rest free := by
  induction rest generalizing free last with
  | nil =>
      cases free with
      | none => exact ⟨rfl, fun idx hidx => nomatch hidx⟩
      | some idx => exact ⟨.inr rfl, hfree idx rfl⟩
  | cons i rest ih =>
      rw [tcontSearch]
      by_cases hget : env.tcontGet i = true
      · rw [if_pos hget]
        dsimp only
        by_cases halloc : (ctx.tcont i).allocId = allocId
        · rw [if_pos halloc]
          exact ⟨List.mem_cons_self, halloc⟩
        · rw [if_neg halloc]
          by_cases htake : (ctx.tcont i).allocId = tcontFree ∧ free = none
          · obtain ⟨hi, rfl⟩ := htake
            rw [if_pos ⟨hi, rfl⟩]
            exact (ih _ fun idx hidx => Option.some.inj hidx ▸ hi).takeFree
          · rw [if_neg htake]
            exact (ih _ hfree).skip halloc fun hi hnone => htake ⟨hi, hnone⟩
      · rw [if_neg hget]
        cases free with
        | none => exact trivial
        | some idx => exact ⟨.inr rfl, hfree idx rfl⟩

end Search

namespace TcontState

variable {s : TcontState} {env : TcontEnv} {meId allocId : BitVec 16}

/-- A search that finds a T-CONT finds one that can be used; one that finds none has looked at
all of them. -/
theorem tcontSearchAll_sound (s : TcontState) (env : TcontEnv) (allocId : BitVec 16) :
    match (tcontSearchAll s.ctx env allocId).1 with
    | .found _ | .firstFree _ => ¬s.Exhausted allocId
    | .failed => True
    | .exhausted => s.Exhausted allocId := by
  have hsound : (tcontSearchAll s.ctx env allocId).1.Sound s.ctx (allocId.setWidth 32)
      ((List.range onuGpeMaxTcont).map (BitVec.ofNat 32)) none :=
    tcontSearch_sound env _ _ nofun
  cases hsearch : (tcontSearchAll s.ctx env allocId).1 with
  | found idx =>
      rw [hsearch] at hsound
      intro hexhausted
      obtain ⟨i, hi, rfl⟩ := List.mem_map.mp hsound.1
      exact (hexhausted i (List.mem_range.mp hi)).1 hsound.2
  | firstFree idx =>
      rw [hsearch] at hsound
      intro hexhausted
      obtain ⟨i, hi, rfl⟩ := List.mem_map.mp (hsound.1.resolve_right nofun)
      exact (hexhausted i (List.mem_range.mp hi)).2 hsound.2
  | failed => exact trivial
  | exhausted =>
      rw [hsearch] at hsound
      intro i hi
      exact hsound.2 _ (List.mem_map_of_mem (List.mem_range.mpr hi))

/-- What holds between requests that keep what they have to. -/
structure Inv (s : TcontState) : Prop where
  wellFormed : s.ctx.mapper.WellFormed
  carries : ∀ meId idx, s.Mapped meId idx → s.Carries meId idx
  given : ∀ meId allocId, s.allocId meId = some allocId →
    ¬TcontDealloc allocId ∧ ∃ idx, s.Mapped meId idx

theorem Inv.init (maxBridgePort : BitVec 32) (tcont : BitVec 32 → GpeTcont) :
    (init maxBridgePort tcont).Inv where
  wellFormed := Mappers.wellFormed_init maxBridgePort
  carries meId idx hmapped := absurd hmapped (Mappers.not_mapped_init maxBridgePort)
  given meId allocId hgiven := by cases hgiven

/-- What a request can come to. -/
inductive Outcome (s : TcontState) : TcontCall → TcontCtx × Bool → Prop
  /-- Nothing changes, and only a release of nothing succeeds so. -/
  | nothing {call : TcontCall} {reply : Bool} (hreply : reply = true → call.Releases)
      (hreleases : call.Releases → ∀ idx, ¬s.Mapped call.meId idx) (hguard : TcontGuard s call) :
      Outcome s call (s.ctx, reply)
  /-- A T-CONT of no other ME is that of the ME and gets the alloc id. -/
  | written {meId allocId : BitVec 16} {env : TcontEnv} {ctx : TcontCtx} {idx : BitVec 32}
      (halloc : ¬TcontDealloc allocId) (hwell : ctx.mapper.WellFormed)
      (hmapped : ∀ other i, ctx.mapper.Mapped MapperIdType.tcontMeidToIdx other i ↔
        other = meId.setWidth 32 ∧ i = idx ∨
          s.ctx.mapper.Mapped MapperIdType.tcontMeidToIdx other i)
      (hfree : ∀ other, s.Mapped other idx → other = meId)
      (hcarries : (ctx.tcont idx).allocId = allocId.setWidth 32 ∧
        (ctx.tcont idx).regEgressPort = meId.setWidth 32 &&& 0xff)
      (hothers : ∀ i ≠ idx, ctx.tcont i = s.ctx.tcont i)
      (hfound : s.Mapped meId idx ∨ ¬s.Exhausted allocId)
      (hguard : TcontGuard s (.update meId allocId env)) :
      Outcome s (.update meId allocId env) (ctx, true)
  /-- The ME is mapped, but the T-CONT is not written. -/
  | mappedOnly {meId allocId : BitVec 16} {env : TcontEnv} {ctx : TcontCtx} {idx : BitVec 32}
      (hnew : ∀ i, ¬s.Mapped meId i)
      (hmapped : ctx.mapper.Mapped MapperIdType.tcontMeidToIdx (meId.setWidth 32) idx)
      (hguard : ¬TcontGuard s (.update meId allocId env)) :
      Outcome s (.update meId allocId env) (ctx, false)
  /-- The last T-CONT is overwritten. -/
  | overwritten {meId allocId : BitVec 16} {env : TcontEnv} {ctx : TcontCtx}
      (halloc : ¬TcontDealloc allocId) (hnew : ∀ i, ¬s.Mapped meId i)
      (hexhausted : s.Exhausted allocId)
      (hguard : ¬TcontGuard s (.update meId allocId env)) :
      Outcome s (.update meId allocId env) (ctx, true)
  /-- The mapping goes. -/
  | released {call : TcontCall} {ctx : TcontCtx} {idx : BitVec 32} (hrelease : call.Releases)
      (hwell : ctx.mapper.WellFormed) (hold : s.Mapped call.meId idx)
      (hmapped : ∀ other i, ctx.mapper.Mapped MapperIdType.tcontMeidToIdx other i ↔
        s.ctx.mapper.Mapped MapperIdType.tcontMeidToIdx other i ∧
          other ≠ call.meId.setWidth 32)
      (hothers : ∀ i ≠ idx, ctx.tcont i = s.ctx.tcont i)
      (hguard : TcontGuard s call ↔ (ctx.tcont idx).allocId = tcontFree) :
      Outcome s call (ctx, true)

theorem tcontProgram_cases (ctx : TcontCtx) (env : TcontEnv) (meId allocId : BitVec 16)
    (idx : BitVec 32) (last : GpeTcont) :
    (env.tcontSet = false ∧ tcontProgram ctx env meId allocId idx last = (ctx, false)) ∨
      (env.tcontSet = true ∧ ∃ tcont : GpeTcont, tcont.allocId = allocId.setWidth 32 ∧
        tcont.regEgressPort = meId.setWidth 32 &&& 0xff ∧
        tcontProgram ctx env meId allocId idx last = (ctx.set idx tcont, true)) := by
  cases hset : env.tcontSet with
  | false => exact .inl ⟨rfl, by simp [tcontProgram, hset]⟩
  | true => exact .inr ⟨rfl, _, rfl, rfl, by rw [tcontProgram, if_pos hset]⟩

/-- The assignment of the T-CONT that the search has found. -/
theorem outcome_found (h : s.Inv) (halloc : ¬TcontDealloc allocId) (hnew : ∀ i, ¬s.Mapped meId i)
    {idx : BitVec 32} {last : GpeTcont} (hexhausted : ¬s.Exhausted allocId)
    (hguard : TcontGuard s (.update meId allocId env) ↔
      (tcontMap s.ctx env meId idx).2.ret ≠ .success ∨ env.tcontSet = true) :
    Outcome s (.update meId allocId env)
      (let mapped := tcontMap s.ctx env meId idx
       if mapped.2.ret = .success then
         tcontProgram { s.ctx with mapper := mapped.1 } env meId allocId idx last
       else (s.ctx, false)) := by
  dsimp only
  cases Mappers.mapped_explicitMap h.wellFormed MapperIdType.tcontMeidToIdx (meId.setWidth 32)
      idx env.mem with
  | inl hrefused =>
      have hret : (tcontMap s.ctx env meId idx).2.ret ≠ .success := hrefused.1
      rw [if_neg hret]
      exact .nothing nofun (fun hrel => absurd hrel halloc) (hguard.mpr (.inl hret))
  | inr hadded =>
      obtain ⟨hadded, hwell, hunused, hpairs⟩ := hadded
      have hret : (tcontMap s.ctx env meId idx).2.ret = .success := hadded
      rw [if_pos hret]
      have hpairs' : ∀ other i, (tcontMap s.ctx env meId idx).1.Mapped
          MapperIdType.tcontMeidToIdx other i ↔ other = meId.setWidth 32 ∧ i = idx ∨
            s.ctx.mapper.Mapped MapperIdType.tcontMeidToIdx other i := by
        intro other i
        rw [tcontMap, hpairs]
        simp
      cases tcontProgram_cases { s.ctx with mapper := (tcontMap s.ctx env meId idx).1 } env meId
          allocId idx last with
      | inl hfails =>
          rw [hfails.2]
          refine .mappedOnly hnew ((hpairs' _ _).mpr (.inl ⟨rfl, rfl⟩)) ?_
          rw [hguard, hfails.1]
          exact fun hor => hor.elim (fun hne => hne hret) nofun
      | inr hwrites =>
          obtain ⟨hset, tcont, hwritten, hport, hprogram⟩ := hwrites
          rw [hprogram]
          refine .written halloc hwell hpairs' (fun other hother => ?_) ?_ (fun i hi => ?_)
            (.inr hexhausted) (hguard.mpr (.inr hset))
          · exact absurd rfl (hunused _ _ hother).2
          · rw [TcontCtx.set_tcont_self]
            exact ⟨hwritten, hport⟩
          · exact TcontCtx.set_tcont_of_ne _ _ hi

theorem outcome_set (h : s.Inv) (halloc : ¬TcontDealloc allocId) :
    Outcome s (.update meId allocId env) (omciApiTcontSet s.ctx env meId allocId) := by
  have hwell := h.wellFormed
  rw [omciApiTcontSet]
  cases hwell.indexGet_cases MapperIdType.tcontMeidToIdx (meId.setWidth 32) with
  | inl hfound =>
      obtain ⟨idx, hget, hmapped⟩ := hfound
      rw [hget, MapperReply.found]
      dsimp only
      have hguard : TcontGuard s (.update meId allocId env) := by
        rw [TcontGuard, if_neg halloc]
        exact .inl ⟨idx, hmapped⟩
      cases tcontProgram_cases s.ctx env meId allocId idx ⟨0, 0, 0⟩ with
      | inl hfails =>
          rw [hfails.2]
          exact .nothing (fun h => by cases h) (fun hrel => absurd hrel halloc) hguard
      | inr hwrites =>
          obtain ⟨-, tcont, hwritten, hport, hprogram⟩ := hwrites
          rw [hprogram]
          refine .written halloc hwell (fun other i => ?_) (fun other hother => ?_) ?_
            (fun i hi => ?_) (.inl hmapped) hguard
          · refine (or_iff_right_of_imp ?_).symm
            rintro ⟨rfl, rfl⟩
            exact hmapped
          · exact meId_inj (hother.id_unique hwell hmapped)
          · rw [TcontCtx.set_tcont_self]
            exact ⟨hwritten, hport⟩
          · exact TcontCtx.set_tcont_of_ne _ _ hi
  | inr hnone =>
      obtain ⟨⟨ret, hret, hget⟩, hnew⟩ := hnone
      have hor {P : Prop} : (∃ idx, s.Mapped meId idx) ∨ P ↔ P :=
        or_iff_right fun hsome => hsome.elim hnew
      have hsound := s.tcontSearchAll_sound env allocId
      rw [hget, MapperReply.code]
      cases ret with
      | success => exact absurd rfl hret
      | error | notFound =>
          dsimp only
          cases hsearch : (tcontSearchAll s.ctx env allocId).1 with
          | found idx | firstFree idx =>
              rw [hsearch] at hsound
              apply outcome_found h halloc hnew hsound
              rw [TcontGuard, if_neg halloc, hsearch]
              exact hor
          | failed =>
              refine .nothing (fun h => by cases h) (fun hrel => absurd hrel halloc) ?_
              rw [TcontGuard, if_neg halloc, hsearch]
              exact .inr trivial
          | exhausted =>
              have hguard : TcontGuard s (.update meId allocId env) ↔ env.tcontSet = false := by
                rw [TcontGuard, if_neg halloc, hsearch]
                exact hor
              rw [hsearch] at hsound
              dsimp only at hsound ⊢
              cases tcontProgram_cases s.ctx env meId allocId
                  (BitVec.ofNat 32 (onuGpeMaxTcont - 1)) (tcontSearchAll s.ctx env allocId).2 with
              | inl hfails =>
                  rw [hfails.2]
                  exact .nothing (fun h => by cases h) (fun hrel => absurd hrel halloc) (hguard.mpr hfails.1)
              | inr hwrites =>
                  obtain ⟨hset, tcont, -, -, hprogram⟩ := hwrites
                  rw [hprogram]
                  refine .overwritten halloc hnew hsound ?_
                  rw [hguard, hset]
                  exact fun h => by cases h

theorem released_pairs (h : s.Inv) {idx : BitVec 32} (hold : s.Mapped meId idx) :
    let removed := s.ctx.mapper.idRemove MapperIdType.tcontMeidToIdx (meId.setWidth 32)
    removed.2.ret = .success ∧ removed.1.WellFormed ∧
      ∀ other i, removed.1.Mapped MapperIdType.tcontMeidToIdx other i ↔
        s.ctx.mapper.Mapped MapperIdType.tcontMeidToIdx other i ∧ other ≠ meId.setWidth 32 := by
  dsimp only
  cases Mappers.mapped_idRemove h.wellFormed MapperIdType.tcontMeidToIdx (meId.setWidth 32) with
  | inl habsent => exact absurd hold (habsent.2.2 idx)
  | inr hremoved =>
      obtain ⟨hret, hwell, -, hpairs⟩ := hremoved
      refine ⟨hret, hwell, fun other i => ?_⟩
      rw [hpairs]
      simp

theorem Inv.not_free (h : s.Inv) {idx : BitVec 32} (hmapped : s.Mapped meId idx) :
    (s.ctx.tcont idx).allocId ≠ tcontFree := by
  obtain ⟨allocId, hgiven, halloc, -⟩ := h.carries meId idx hmapped
  have hdealloc := (h.given meId allocId hgiven).1
  rw [halloc]
  intro hfree
  exact hdealloc (.inl (meId_inj hfree))

theorem outcome_delete (h : s.Inv) (halloc : TcontDealloc allocId) :
    Outcome s (.update meId allocId env) (omciApiTcontDelete s.ctx env meId) := by
  have hwell := h.wellFormed
  rw [omciApiTcontDelete]
  cases hwell.indexGet_cases MapperIdType.tcontMeidToIdx (meId.setWidth 32) with
  | inl hfound =>
      obtain ⟨idx, hget, hmapped⟩ := hfound
      obtain ⟨hret, hwell', hpairs⟩ := released_pairs h hmapped
      rw [hget, MapperReply.found]
      dsimp only
      rw [hret]
      refine .released halloc hwell' hmapped hpairs (fun i hi => ?_) ?_
      · dsimp only
        split
        · exact TcontCtx.set_tcont_of_ne _ _ hi
        · rfl
      · rw [TcontGuard, if_pos halloc, or_iff_left fun hnew => hnew idx hmapped]
        dsimp only
        cases hdelete : env.tcontDelete with
        | false => exact iff_of_false (fun h => by cases h) (h.not_free hmapped)
        | true => simp
  | inr hnone =>
      obtain ⟨⟨ret, hret, hget⟩, hnew⟩ := hnone
      have hguard : TcontGuard s (.update meId allocId env) := by
        rw [TcontGuard, if_pos halloc]
        exact .inr hnew
      rw [hget, MapperReply.code]
      cases ret with
      | success => exact absurd rfl hret
      | error => exact .nothing (fun h => by cases h) (fun _ => hnew) hguard
      | notFound => exact .nothing (fun _ => halloc) (fun _ => hnew) hguard

theorem outcome_destroy (h : s.Inv) : Outcome s (.destroy meId) (omciApiTcontDestroy s.ctx meId) := by
  have hwell := h.wellFormed
  rw [omciApiTcontDestroy]
  cases hwell.indexGet_cases MapperIdType.tcontMeidToIdx (meId.setWidth 32) with
  | inl hfound =>
      obtain ⟨idx, hget, hmapped⟩ := hfound
      obtain ⟨-, hwell', hpairs⟩ := released_pairs h hmapped
      rw [hget, MapperReply.found]
      refine .released trivial hwell' hmapped hpairs (fun i hi => rfl) ?_
      exact iff_of_false (fun hguard => hguard idx hmapped) (h.not_free hmapped)
  | inr hnone =>
      obtain ⟨⟨ret, hret, hget⟩, hnew⟩ := hnone
      rw [hget, MapperReply.code]
      cases ret with
      | success => exact absurd rfl hret
      | error | notFound => exact .nothing (fun _ => trivial) (fun _ => hnew) hnew

theorem outcome_reply (h : s.Inv) (call : TcontCall) : Outcome s call (s.reply call) := by
  cases call with
  | update meId allocId env =>
      rw [reply, omciApiTcontUpdate]
      split
      · rename_i halloc
        exact outcome_delete h halloc
      · rename_i halloc
        exact outcome_set h halloc
  | destroy meId => exact outcome_destroy h

variable {call : TcontCall} {reply : Bool}

theorem given_of_releases (hrel : call.Releases) : given call = none := by
  cases call with
  | update meId allocId env => exact if_pos hrel
  | destroy meId => rfl

theorem after_allocId_of_ne {result : TcontCtx × Bool} (hne : meId ≠ call.meId) :
    (s.after call result).allocId meId = s.allocId meId :=
  if_neg fun hboth => hne hboth.1

theorem Inv.allocId_eq_none (h : s.Inv) (hnew : ∀ idx, ¬s.Mapped meId idx) :
    s.allocId meId = none := by
  cases hgiven : s.allocId meId with
  | none => rfl
  | some allocId =>
      obtain ⟨idx, hmapped⟩ := (h.given meId allocId hgiven).2
      exact absurd hmapped (hnew idx)

theorem after_nothing (h : s.Inv) (hreply : reply = true → call.Releases)
    (hreleases : call.Releases → ∀ idx, ¬s.Mapped call.meId idx) :
    s.after call (s.ctx, reply) = s := by
  have hallocId : (s.after call (s.ctx, reply)).allocId = s.allocId := by
    funext meId
    dsimp only [after]
    split
    · rename_i hboth
      have hrel := hreply hboth.2
      rw [given_of_releases hrel, hboth.1, h.allocId_eq_none (hreleases hrel)]
    · rfl
  exact congrArg (TcontState.mk s.ctx) hallocId

theorem kept_nothing (h : s.Inv)
    (hresult : s.reply call = (s.ctx, reply)) (hreply : reply = true → call.Releases)
    (hreleases : call.Releases → ∀ idx, ¬s.Mapped call.meId idx) : TcontKept s call s where
  oneToOne meId other idx hmeId hother := meId_inj (hmeId.id_unique h.wellFormed hother)
  carries := h.carries
  others meId idx _ hmapped := ⟨hmapped, rfl⟩
  freed idx hrel hmapped := absurd hmapped (hreleases hrel idx)
  refused meId allocId env hcall halloc _ _ := by
    subst hcall
    refine ⟨?_, rfl⟩
    rw [hresult]
    exact Bool.eq_false_iff.mpr fun htrue => halloc (hreply htrue)

section Written

variable {ctx : TcontCtx} {idx : BitVec 32}

variable (hmapped : ∀ other i, ctx.mapper.Mapped MapperIdType.tcontMeidToIdx other i ↔
    other = meId.setWidth 32 ∧ i = idx ∨
      s.ctx.mapper.Mapped MapperIdType.tcontMeidToIdx other i)
include hmapped

theorem mapped_written {other : BitVec 16} {i : BitVec 32} :
    (s.after (.update meId allocId env) (ctx, true)).Mapped other i ↔
      other = meId ∧ i = idx ∨ s.Mapped other i := by
  refine (hmapped _ _).trans (or_congr_left (and_congr_left' ?_))
  constructor
  · exact meId_inj
  · exact congrArg _

variable (halloc : ¬TcontDealloc allocId) (hfree : ∀ other, s.Mapped other idx → other = meId)
  (hothers : ∀ i ≠ idx, ctx.tcont i = s.ctx.tcont i)
include halloc hfree hothers

theorem inv_written (h : s.Inv) (hwell : ctx.mapper.WellFormed)
    (hcarries : (ctx.tcont idx).allocId = allocId.setWidth 32 ∧
      (ctx.tcont idx).regEgressPort = meId.setWidth 32 &&& 0xff) :
    (s.after (.update meId allocId env) (ctx, true)).Inv := by
  have hgiven : (s.after (.update meId allocId env) (ctx, true)).allocId meId = some allocId :=
    (if_pos ⟨rfl, rfl⟩).trans (if_neg halloc)
  have hown : (s.after (.update meId allocId env) (ctx, true)).Mapped meId idx :=
    (mapped_written hmapped).mpr (.inl ⟨rfl, rfl⟩)
  constructor
  · exact hwell
  · intro other i hother
    by_cases hsame : other = meId
    · subst hsame
      have hi : i = idx := Mappers.Mapped.index_unique hwell hother hown
      subst hi
      exact ⟨allocId, hgiven, hcarries⟩
    · have hold := ((mapped_written hmapped).mp hother).resolve_left fun hboth => hsame hboth.1
      have hi : i ≠ idx := by
        rintro rfl
        exact hsame (hfree other hold)
      obtain ⟨otherAlloc, hgiven, hcarries⟩ := h.carries other i hold
      refine ⟨otherAlloc, (after_allocId_of_ne hsame).trans hgiven, ?_⟩
      change (ctx.tcont i).allocId = _ ∧ (ctx.tcont i).regEgressPort = _
      rw [hothers i hi]
      exact hcarries
  · intro other otherAlloc hother
    by_cases hsame : other = meId
    · subst hsame
      rw [hgiven] at hother
      cases hother
      exact ⟨halloc, idx, hown⟩
    · rw [after_allocId_of_ne hsame] at hother
      obtain ⟨hdealloc, i, hold⟩ := h.given other otherAlloc hother
      exact ⟨hdealloc, i, (mapped_written hmapped).mpr (.inr hold)⟩

theorem kept_written (hinv : (s.after (.update meId allocId env) (ctx, true)).Inv)
    (hfound : s.Mapped meId idx ∨ ¬s.Exhausted allocId) :
    TcontKept s (.update meId allocId env) (s.after (.update meId allocId env) (ctx, true)) where
  oneToOne other other' i hother hother' :=
    meId_inj (hother.id_unique hinv.wellFormed hother')
  carries := hinv.carries
  others other i hne hold := by
    have hi : i ≠ idx := by
      rintro rfl
      exact hne (hfree other hold)
    exact ⟨(mapped_written hmapped).mpr (.inr hold), hothers i hi⟩
  freed i hrel _ := absurd hrel halloc
  refused _ _ _ hcall _ hnew hexhausted := by
    cases hcall
    cases hfound with
    | inl hown => exact absurd hown (hnew idx)
    | inr hnot => exact absurd hexhausted hnot

end Written

section Released

variable {call : TcontCall} {ctx : TcontCtx} {idx : BitVec 32}

variable (hmapped : ∀ other i, ctx.mapper.Mapped MapperIdType.tcontMeidToIdx other i ↔
    s.ctx.mapper.Mapped MapperIdType.tcontMeidToIdx other i ∧ other ≠ call.meId.setWidth 32)
include hmapped

theorem mapped_released {other : BitVec 16} {i : BitVec 32} :
    (s.after call (ctx, true)).Mapped other i ↔ s.Mapped other i ∧ other ≠ call.meId := by
  refine (hmapped _ _).trans (and_congr_right' (not_congr ?_))
  constructor
  · exact meId_inj
  · exact congrArg _

variable (h : s.Inv) (hrel : call.Releases) (hold : s.Mapped call.meId idx)
  (hothers : ∀ i ≠ idx, ctx.tcont i = s.ctx.tcont i)
include h hrel hold hothers

theorem inv_released (hwell : ctx.mapper.WellFormed) : (s.after call (ctx, true)).Inv := by
  constructor
  · exact hwell
  · intro other i hother
    obtain ⟨hbefore, hne⟩ := (mapped_released hmapped).mp hother
    have hi : i ≠ idx := by
      rintro rfl
      exact hne (meId_inj (hbefore.id_unique h.wellFormed hold))
    obtain ⟨allocId, hgiven, hcarries⟩ := h.carries other i hbefore
    refine ⟨allocId, (after_allocId_of_ne hne).trans hgiven, ?_⟩
    change (ctx.tcont i).allocId = _ ∧ (ctx.tcont i).regEgressPort = _
    rw [hothers i hi]
    exact hcarries
  · intro other allocId hother
    by_cases hne : other = call.meId
    · have hnone : (s.after call (ctx, true)).allocId other = none :=
        (if_pos ⟨hne, rfl⟩).trans (given_of_releases hrel)
      rw [hnone] at hother
      cases hother
    · rw [after_allocId_of_ne hne] at hother
      obtain ⟨hdealloc, i, hbefore⟩ := h.given other allocId hother
      exact ⟨hdealloc, i, (mapped_released hmapped).mpr ⟨hbefore, hne⟩⟩

theorem kept_released_iff (hinv : (s.after call (ctx, true)).Inv) :
    TcontKept s call (s.after call (ctx, true)) ↔ (ctx.tcont idx).allocId = tcontFree := by
  constructor
  · intro hkept
    exact (hkept.freed idx hrel hold).2
  · intro hfreed
    exact
      { oneToOne := fun other other' i hother hother' =>
          meId_inj (hother.id_unique hinv.wellFormed hother')
        carries := hinv.carries
        others := by
          intro other i hne hbefore
          have hi : i ≠ idx := by
            rintro rfl
            exact hne (meId_inj (hbefore.id_unique h.wellFormed hold))
          exact ⟨(mapped_released hmapped).mpr ⟨hbefore, hne⟩, hothers i hi⟩
        freed := by
          intro i _ hbefore
          have hi : i = idx := hbefore.index_unique h.wellFormed hold
          subst hi
          refine ⟨fun other hother => ?_, hfreed⟩
          obtain ⟨hother, hne⟩ := (mapped_released hmapped).mp hother
          exact hne (meId_inj (hother.id_unique h.wellFormed hold))
        refused := by
          intro meId allocId env hcall halloc
          subst hcall
          exact absurd hrel halloc }

end Released

/-- What an outcome leaves is kept exactly under the guard, and the invariant with it. -/
theorem Outcome.kept_iff (h : s.Inv) {call : TcontCall} (hcall : Outcome s call (s.reply call)) :
    (TcontKept s call (s.after call (s.reply call)) ↔ TcontGuard s call) ∧
      (TcontGuard s call → (s.after call (s.reply call)).Inv) := by
  generalize hreply : s.reply call = result at hcall
  cases hcall with
  | @nothing call reply hrel hnew hguard =>
      rw [after_nothing h hrel hnew]
      exact ⟨iff_of_true (kept_nothing h hreply hrel hnew) hguard, fun _ => h⟩
  | @written meId allocId env ctx idx halloc hwell hmapped hfree hcarries hothers hfound hguard =>
      have hinv : (s.after (.update meId allocId env) (ctx, true)).Inv :=
        inv_written hmapped halloc hfree hothers h hwell hcarries
      exact ⟨iff_of_true (kept_written hmapped halloc hfree hothers hinv hfound) hguard,
        fun _ => hinv⟩
  | @mappedOnly meId allocId env ctx idx hnew hmapped hguard =>
      refine ⟨iff_of_false (fun hkept => ?_) hguard, fun hyes => absurd hyes hguard⟩
      obtain ⟨allocId', hgiven, -⟩ := hkept.carries meId idx hmapped
      have hbefore : s.allocId meId = some allocId' := by
        simpa [after] using hgiven
      obtain ⟨i, hi⟩ := (h.given meId allocId' hbefore).2
      exact hnew i hi
  | @overwritten meId allocId env ctx halloc hnew hexhausted hguard =>
      refine ⟨iff_of_false (fun hkept => ?_) hguard, fun hyes => absurd hyes hguard⟩
      have hrefused := (hkept.refused meId allocId env rfl halloc hnew hexhausted).1
      rw [hreply] at hrefused
      cases hrefused
  | @released call ctx idx hrel hwell hold hmapped hothers hguard =>
      have hinv := inv_released hmapped h hrel hold hothers hwell
      exact ⟨(kept_released_iff hmapped h hrel hold hothers hinv).trans hguard.symm,
        fun _ => hinv⟩

end TcontState

/-- Over all sequences of requests, the mapping, the T-CONTs and the alloc ids stay in step
exactly if every request meets the guard. -/
theorem tcont_kept_iff (maxBridgePort : BitVec 32) (tcont : BitVec 32 → GpeTcont)
    (calls : List TcontCall) :
    Along TcontState.step TcontKept (.init maxBridgePort tcont) calls ↔
      Along TcontState.step (fun before call _ => TcontGuard before call)
        (.init maxBridgePort tcont) calls := by
  refine along_iff_guard ?_ (TcontState.Inv.init maxBridgePort tcont) calls
  intro before call after hbefore hstep
  cases hstep
  exact (TcontState.outcome_reply hbefore call).kept_iff hbefore

def tcontEnvOk : TcontEnv := ⟨fun _ => true, true, true, true, true⟩

def tcontUpdates (num : Nat) : List TcontCall :=
  (List.range num).map fun i =>
    .update (BitVec.ofNat 16 i) (BitVec.ofNat 16 (0x100 + i)) tcontEnvOk

def tcontFull : TcontState :=
  (execOn TcontState.step (fun _ _ => True) (.init 8 fun _ => ⟨tcontFree, 0, 0⟩)
    (tcontUpdates onuGpeMaxTcont)).getD (.init 8 fun _ => ⟨tcontFree, 0, 0⟩)

/-- An update of a further ME overwrites the T-CONT of the last one. -/
theorem not_tcont_kept :
    ¬∀ calls, Along TcontState.step TcontKept (.init 8 fun _ => ⟨tcontFree, 0, 0⟩) calls := by
  intro hall
  have hfull : execOn TcontState.step (fun _ _ => True) (.init 8 fun _ => ⟨tcontFree, 0, 0⟩)
      (tcontUpdates onuGpeMaxTcont) = some tcontFull := by
    have hsome : (execOn TcontState.step (fun _ _ => True) (.init 8 fun _ => ⟨tcontFree, 0, 0⟩)
        (tcontUpdates onuGpeMaxTcont)).isSome := by
      decide +kernel
    obtain ⟨full, hfull⟩ := Option.isSome_iff_exists.mp hsome
    rw [tcontFull, hfull, Option.getD_some]
  have hrun := hall (tcontUpdates onuGpeMaxTcont ++ [.update 32 0x200 tcontEnvOk])
  have hlast := hrun.of_execOn hfull rfl
  have hmapped : tcontFull.Mapped 31 31 := by
    have hpair : (tcontFull.ctx.mapper.mapperGet MapperIdType.tcontMeidToIdx).any
        (fun m => ⟨31, 31⟩ ∈ m.list .id) = true := by
      decide +kernel
    obtain ⟨m, hget, hitem⟩ := (Option.any_eq_true _ _).mp hpair
    exact ⟨m, hget, of_decide_eq_true hitem⟩
  have hsame := (hlast.others 31 31 (by decide) hmapped).2
  exact absurd (congrArg GpeTcont.allocId hsame) (by decide +kernel)

end FalconGpon.Api
