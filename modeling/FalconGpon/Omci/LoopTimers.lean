/-
# Runs of loop detection

In runs whose steps meet `LdState.Meets` an entry is sending exactly while detection is enabled
and its UNI is not shut down (`LdState.Sound`), and its identifiers are those of its pending
timers. The main result is `loopTimers_kept`.
-/

import FalconGpon.Omci.LoopDetection

namespace FalconGpon.Omci

open FalconGpon.Lib

/-! ## What loop detection should keep to -/

def LdSetEnv.passes (env : LdSetEnv) (enable : Bool) (port : LdPort) : Bool :=
  env.driver port.portIndex &&
    (!enable || port.pktRate = 0 || port.sendTid ≠ 0 || env.timerMemory port.portIndex)

def LdState.sends (state : LdState) (attrs : LdAttrs) (port : LdPort) : Bool :=
  attrs.enabled && !state.shut port.uniMeId

namespace LdState

/-- The condition on the third phase of a SET. One that succeeds enables no entry whose UNI is
shut down; one that fails on the way leaves every entry sending exactly if it should be by the
attributes that stay, and does not switch between rate 0 and others. -/
def ControlMeets (state : LdState) (env : LdSetEnv) (attrs upd : LdAttrs)
    (ports : List LdPort) : Prop :=
  let passes := env.passes (upd.loopDetectMgmt = 2)
  if ports.dropWhile passes = [] then
    upd.enabled = true → ∀ port ∈ ports, state.shut port.uniMeId = false
  else
    (upd.loopDetectFreq = 0 ↔ attrs.loopDetectFreq = 0) ∧
      (∀ port ∈ ports.takeWhile passes, upd.enabled = state.sends attrs port) ∧
      ∀ port ∈ ports.dropWhile passes, decide (port.sendTid ≠ 0) = state.sends attrs port

/-- The condition on a recovery: sending is started exactly if detection is enabled and the UNI
was shut down and is enabled now, and then no other entry has that UNI. -/
def RecoveryMeets (state : LdState) (env : LdExpireEnv) (me : LdMe) (port : LdPort) : Prop :=
  env.uniFound = true →
    (me.attrs.loopDetectMgmt ≠ 0 ∧ me.attrs.loopDetectFreq ≠ 0 ∧ env.memory = true ↔
      me.attrs.enabled = true ∧ state.shut port.uniMeId = true ∧ env.driver = true) ∧
    (me.attrs.enabled = true → state.shut port.uniMeId = true → env.driver = true →
      ∀ other ∈ me.ports, other.uniMeId = port.uniMeId → other.address = port.address)

/-- The condition on a loop report: an UNI that gets shut down while detection is enabled has one
entry only. -/
def LoopMeets (state : LdState) (me : LdMe) (uniMeId : BitVec 16) : Prop :=
  me.attrs.loopPortDown = 1 → me.attrs.enabled = true → state.shut uniMeId = false →
    ∀ port ∈ me.ports, ∀ other ∈ me.ports,
      port.uniMeId = uniMeId → other.uniMeId = uniMeId → port.address = other.address

/-- The condition on a step. -/
def Meets (state : LdState) : LdEvent → Prop
  | .create _ => True
  | .delete => True
  | .set request env => request.size ≤ 30 → ∀ me ∈ state.me, request.updData me.attrs ≠ me.attrs →
      ∀ ports ∈ ldTableUpdate env state.address request (request.updData me.attrs) me.ports,
        state.ControlMeets env me.attrs (request.updData me.attrs) ports
  | .expire timeoutId env => ∀ expiring ∈ state.expiring timeoutId,
      (expiring.1.handler = .send → env.driver = true ∧ env.memory = true) ∧
        (expiring.1.handler = .recovery → state.RecoveryMeets env expiring.2.1 expiring.2.2)
  | .loop uniMeId _ => ∀ me ∈ state.me, state.LoopMeets me uniMeId

instance (state : LdState) (env : LdSetEnv) (attrs upd : LdAttrs) (ports : List LdPort) :
    Decidable (state.ControlMeets env attrs upd ports) := by
  unfold ControlMeets
  infer_instance

instance (state : LdState) (env : LdExpireEnv) (me : LdMe) (port : LdPort) :
    Decidable (state.RecoveryMeets env me port) := by
  unfold RecoveryMeets
  exact instDecidableForall

instance (state : LdState) (me : LdMe) (uniMeId : BitVec 16) :
    Decidable (state.LoopMeets me uniMeId) := by
  unfold LoopMeets
  infer_instance

instance (state : LdState) : ∀ event, Decidable (state.Meets event)
  | .create _ => isTrue trivial
  | .delete => isTrue trivial
  | .set request env => inferInstanceAs (Decidable (request.size ≤ 30 → ∀ me ∈ state.me,
      request.updData me.attrs ≠ me.attrs →
        ∀ ports ∈ ldTableUpdate env state.address request (request.updData me.attrs) me.ports,
          state.ControlMeets env me.attrs (request.updData me.attrs) ports))
  | .expire timeoutId env => inferInstanceAs (Decidable (∀ expiring ∈ state.expiring timeoutId,
      (expiring.1.handler = .send → env.driver = true ∧ env.memory = true) ∧
        (expiring.1.handler = .recovery → state.RecoveryMeets env expiring.2.1 expiring.2.2)))
  | .loop uniMeId _ => inferInstanceAs (Decidable (∀ me ∈ state.me, state.LoopMeets me uniMeId))

/-- The entries; none without the ME. -/
def ports (state : LdState) : List LdPort :=
  match state.me with
  | none => []
  | some me => me.ports

/-- What holds in runs that meet the condition. -/
structure Sound (state : LdState) : Prop where
  linked : LdLinked state.ports state.timers
  fresh : ∀ port ∈ state.ports, port.address < state.address
  agree : ∀ me, state.me = some me → ∀ port ∈ me.ports,
    decide (port.sendTid ≠ 0) = state.sends me.attrs port
  rates : ∀ me, state.me = some me → ∀ port ∈ me.ports,
    port.pktRate = 0 ↔ me.attrs.loopDetectFreq = 0

end LdState

theorem LdAttrs.enabled_eq_true {attrs : LdAttrs} :
    attrs.enabled = true ↔ attrs.loopDetectMgmt = 2 ∧ attrs.loopDetectFreq ≠ 0 := by
  simp [LdAttrs.enabled]

/-! ## Entries -/

namespace LdLinked

variable {before after ports : List LdPort} {port : LdPort} {timers : LdTimers}

theorem timerStop (h : LdLinked (before ++ port :: after) timers) (handler : LdHandler) :
    LdLinked (before ++ (ldTimerStop timers handler port).1 :: after)
      (ldTimerStop timers handler port).2 := by
  unfold ldTimerStop
  split
  · rename_i htid
    exact h.stop htid
  · exact h

theorem timerStart (h : LdLinked (before ++ port :: after) timers) (memory : Bool)
    (handler : LdHandler) (htid : port.tid handler = 0) :
    LdLinked (before ++ (ldTimerStart timers memory handler port).1 :: after)
      (ldTimerStart timers memory handler port).2 := by
  unfold ldTimerStart
  split
  · exact h.start htid
  · exact h

/-- A change of all entries that keeps their addresses and identifiers. -/
theorem map (h : LdLinked ports timers) {change : LdPort → LdPort}
    (haddress : ∀ port, (change port).address = port.address)
    (htid : ∀ port handler, (change port).tid handler = port.tid handler) :
    LdLinked (ports.map change) timers := by
  refine ⟨?_, h.timeoutIds, h.range, ?_, ?_⟩
  · rw [List.map_map]
    exact (List.map_congr_left fun port _ => haddress port) ▸ h.addresses
  · intro timer htimer
    obtain ⟨owner, howner, hat, hown⟩ := h.owner timer htimer
    exact ⟨change owner, List.mem_map_of_mem howner, (haddress owner).trans hat,
      (htid owner _).trans hown⟩
  · intro holder hholder handler hne
    obtain ⟨port, hport, rfl⟩ := List.mem_map.mp hholder
    rw [htid] at hne ⊢
    rw [haddress]
    exact h.held port hport handler hne

end LdLinked

/-! ## Stopping and starting -/

section Timers

variable {timers : LdTimers} {memory : Bool} {handler other : LdHandler} {port : LdPort}

theorem LdPort.setTid_tid : port.setTid (port.tid handler) handler = port := by
  cases handler <;> rfl

theorem ldTimerStop_port : (ldTimerStop timers handler port).1 = port.setTid 0 handler := by
  unfold ldTimerStop
  split
  · rfl
  · rename_i htid
    have hzero : port.tid handler = 0 := not_not.mp htid
    rw [← hzero, LdPort.setTid_tid]

theorem ldTimerStart_port : (ldTimerStart timers memory handler port).1 =
      if memory then port.setTid (timers.lastTimeoutId + 1) handler else port := by
  unfold ldTimerStart
  split <;> rfl

end Timers

/-! ## The third phase -/

/-- The same entry, but for its identifiers. -/
structure LdPort.Same (port port' : LdPort) : Prop where
  address : port'.address = port.address
  uniMeId : port'.uniMeId = port.uniMeId
  pktRate : port'.pktRate = port.pktRate

theorem LdPort.setTid_same {port : LdPort} {timeoutId : Nat} {handler : LdHandler} :
    port.Same (port.setTid timeoutId handler) :=
  ⟨port.setTid_address _ _, port.setTid_uniMeId _ _, port.setTid_pktRate _ _⟩

section Control

variable {env : LdSetEnv} {enable : Bool} {ports before after : List LdPort}
  {port port' : LdPort} {timers timers' : LdTimers}

theorem isSome_ldControlPort (timers : LdTimers) :
    (ldControlPort env enable port timers).isSome = env.passes enable port := by
  unfold ldControlPort LdSetEnv.passes
  split_ifs <;> simp_all

/-- An entry that is got past is sending exactly if detection is enabled at a rate above 0. -/
theorem ldControlPort_some (hsome : ldControlPort env enable port timers = some (port', timers')) :
    port.Same port' ∧ decide (port'.sendTid ≠ 0) = (enable && decide (port.pktRate ≠ 0)) := by
  unfold ldControlPort at hsome
  split_ifs at hsome with hdriver hoff htid hmemory
  · obtain rfl : (ldTimerStop timers .send port).1 = port' :=
      congrArg Prod.fst (Option.some.inj hsome)
    rw [ldTimerStop_port]
    refine ⟨LdPort.setTid_same, ?_⟩
    have hdisabled : (enable && decide (port.pktRate ≠ 0)) = false := by
      cases enable <;> simp_all
    rw [hdisabled]
    rfl
  · obtain rfl : (ldTimerStart timers true .send port).1 = port' :=
      congrArg Prod.fst (Option.some.inj hsome)
    rw [ldTimerStart_port, if_pos rfl]
    refine ⟨LdPort.setTid_same, ?_⟩
    cases enable <;> simp_all [LdPort.setTid]
  · obtain rfl : port = port' := congrArg Prod.fst (Option.some.inj hsome)
    refine ⟨⟨rfl, rfl, rfl⟩, ?_⟩
    cases enable <;> simp_all

theorem LdLinked.controlPort (h : LdLinked (before ++ port :: after) timers)
    (hsome : ldControlPort env enable port timers = some (port', timers')) :
    LdLinked (before ++ port' :: after) timers' := by
  unfold ldControlPort at hsome
  split_ifs at hsome with hdriver hoff htid hmemory
  · have hstop := h.timerStop .send
    rwa [Option.some.inj hsome] at hstop
  · have hstart := h.timerStart true .send htid
    rwa [Option.some.inj hsome] at hstart
  · cases hsome
    exact h

/-- The third phase keeps entries and events together, whether it comes to its end or not. -/
theorem LdLinked.control (h : LdLinked (before ++ ports) timers) :
    LdLinked (before ++ (ldControl env enable ports timers).1)
      (ldControl env enable ports timers).2.1 := by
  induction ports generalizing before timers with
  | nil => exact h
  | cons port rest ih =>
      rw [ldControl]
      cases hsome : ldControlPort env enable port timers with
      | none => exact h
      | some done =>
          have hrest : LdLinked ((before ++ [done.1]) ++ rest) done.2 := by
            rw [List.append_assoc]
            exact h.controlPort hsome
          have hall := ih hrest
          rw [List.append_assoc] at hall
          exact hall

theorem ldControl_end : (ldControl env enable ports timers).2.2 = true ↔
    ports.dropWhile (env.passes enable) = [] := by
  induction ports generalizing timers with
  | nil => exact iff_of_true rfl rfl
  | cons port rest ih =>
      rw [ldControl, List.dropWhile_cons, ← isSome_ldControlPort timers]
      cases hsome : ldControlPort env enable port timers with
      | none => simp
      | some done => exact ih

/-- Entries that the third phase gets past are sending or not as they should; it leaves the
others alone. -/
theorem mem_ldControl (hport : port' ∈ (ldControl env enable ports timers).1) :
    (∃ port ∈ ports.takeWhile (env.passes enable), port.Same port' ∧
      decide (port'.sendTid ≠ 0) = (enable && decide (port.pktRate ≠ 0))) ∨
    port' ∈ ports.dropWhile (env.passes enable) := by
  induction ports generalizing timers with
  | nil => cases hport
  | cons port rest ih =>
      rw [ldControl] at hport
      rw [List.takeWhile_cons, List.dropWhile_cons, ← isSome_ldControlPort timers]
      cases hsome : ldControlPort env enable port timers with
      | none =>
          rw [hsome] at hport
          exact .inr (by simpa using hport)
      | some done =>
          rw [hsome] at hport
          rcases List.mem_cons.mp hport with rfl | hrest
          · exact .inl ⟨port, by simp, ldControlPort_some hsome⟩
          · rcases ih hrest with ⟨old, hold, hdone⟩ | hleft
            · exact .inl ⟨old, by simpa using .inr hold, hdone⟩
            · exact .inr (by simpa using hleft)

end Control

/-! ## The first two phases -/

section Table

variable {env : LdSetEnv} {address : Nat} {request : LdRequest} {upd : LdAttrs}
  {ports updated : List LdPort} {timers : LdTimers}

/-- The first phase changes an entry or adds one. -/
theorem ldTableSet_linked {entry : LdVlanEntry} (h : LdLinked ports timers)
    (hfresh : ∀ port ∈ ports, port.address < address)
    (hset : ldTableSet env address entry ports = some updated) :
    LdLinked updated timers ∧ ∀ port ∈ updated, port.address < address + 1 := by
  unfold ldTableSet at hset
  obtain ⟨_, hset⟩ := Option.ite_none_left_eq_some.mp hset
  obtain ⟨_, hset⟩ := Option.ite_none_left_eq_some.mp hset
  cases hfind : ports.find? (·.portIndex = entry.portIndex) with
  | some port =>
      rw [hfind] at hset
      obtain rfl := Option.some.inj hset
      obtain ⟨before, after, rfl, hchange⟩ := modifyPort_of_find? hfind
      rw [hchange]
      refine ⟨h.edit rfl fun handler => by cases handler <;> rfl, fun port' hport' => ?_⟩
      rcases LdLinked.mem_middle.mp hport' with rfl | hother
      · exact Nat.lt_succ_of_lt (hfresh port (LdLinked.mem_middle.mpr (.inl rfl)))
      · exact Nat.lt_succ_of_lt (hfresh port' (LdLinked.mem_middle.mpr (.inr hother)))
  | none =>
      rw [hfind] at hset
      obtain ⟨_, hset⟩ := Option.ite_none_right_eq_some.mp hset
      obtain rfl := Option.some.inj hset
      refine ⟨h.insert (fun other hother => Nat.ne_of_lt (hfresh other hother)) ?_, fun port' hport' => ?_⟩
      · intro handler
        cases handler <;> rfl
      · rcases List.mem_append.mp hport' with hold | hnew
        · exact Nat.lt_succ_of_lt (hfresh port' hold)
        · rw [List.mem_singleton] at hnew
          exact hnew ▸ Nat.lt_succ_self address

theorem ldRateSet_linked {freq : BitVec 16} (h : LdLinked ports timers)
    (hfresh : ∀ port ∈ ports, port.address < address) :
    LdLinked (ldRateSet freq ports) timers ∧
      ∀ port ∈ ldRateSet freq ports, port.address < address ∧ port.pktRate = freq := by
  refine ⟨h.map (fun _ => rfl) (fun _ handler => by cases handler <;> rfl), fun port' hport' => ?_⟩
  obtain ⟨port, hport, rfl⟩ := List.mem_map.mp hport'
  exact ⟨hfresh port hport, rfl⟩

/-- After the first two phases all entries have the rate of the SET. -/
theorem ldTableUpdate_linked (h : LdLinked ports timers)
    (hfresh : ∀ port ∈ ports, port.address < address)
    (hset : ldTableUpdate env address request upd ports = some updated) :
    LdLinked updated timers ∧
      ∀ port ∈ updated, port.address < address + 1 ∧ port.pktRate = upd.loopDetectFreq := by
  unfold ldTableUpdate at hset
  cases htable : request.portVlanTable with
  | none =>
      rw [htable] at hset
      obtain rfl := Option.some.inj hset
      exact ldRateSet_linked h fun port hport => Nat.lt_succ_of_lt (hfresh port hport)
  | some raw =>
      rw [htable] at hset
      obtain ⟨middle, hmiddle, rfl⟩ := Option.map_eq_some_iff.mp hset
      obtain ⟨hlinked, hless⟩ := ldTableSet_linked h hfresh hmiddle
      exact ldRateSet_linked hlinked hless

end Table

/-! ## Steps -/

namespace LdState

variable {state before after : LdState} {me : LdMe}

theorem ports_eq (hme : state.me = some me) : state.ports = me.ports := by
  rw [ports, hme]

theorem sends_eq_true {attrs : LdAttrs} {port : LdPort} :
    state.sends attrs port = true ↔
      attrs.enabled = true ∧ state.shut port.uniMeId = false := by
  simp [sends]

/-- A SET that meets the condition. -/
theorem Sound.set (h : state.Sound) (hme : state.me = some me) {request : LdRequest}
    {env : LdSetEnv} (hmeets : state.Meets (.set request env)) :
    (state.meSet me request env).1.Sound := by
  unfold meSet
  dsimp only
  by_cases hlong : 30 < request.size
  · rw [if_pos hlong]
    exact h
  rw [if_neg hlong]
  have hcontrol := hmeets (Nat.not_lt.mp hlong) me hme
  by_cases hsame : request.updData me.attrs = me.attrs
  · rw [if_pos hsame]
    exact h
  · rw [if_neg hsame]
    cases htable : ldTableUpdate env state.address request (request.updData me.attrs) me.ports with
    | none => exact h
    | some ports =>
        have hmeets' := hcontrol hsame ports htable
        have hports := ports_eq hme
        obtain ⟨hlinked, hupdated⟩ := ldTableUpdate_linked (hports ▸ h.linked)
          (hports ▸ h.fresh) htable
        generalize request.updData me.attrs = upd at hmeets' hupdated
        dsimp only
        have hall : LdLinked ([] ++ ports) state.timers := hlinked
        -- an entry after the third phase is one before it, but for its identifiers
        have hold : ∀ port' ∈ (ldControl env (upd.loopDetectMgmt = 2) ports state.timers).1,
            ∃ port ∈ ports, port.Same port' := by
          intro port' hport'
          rcases mem_ldControl hport' with ⟨port, hport, hthis, _⟩ | hleft
          · exact ⟨port, (List.takeWhile_sublist _).subset hport, hthis⟩
          · exact ⟨port', (List.dropWhile_sublist _).subset hleft, ⟨rfl, rfl, rfl⟩⟩
        have henabled : ∀ port ∈ ports, (decide (upd.loopDetectMgmt = 2) &&
            decide (port.pktRate ≠ 0)) = upd.enabled := by
          intro port hport
          rw [(hupdated port hport).2]
          rfl
        unfold ControlMeets at hmeets'
        dsimp only at hmeets'
        refine ⟨hall.control, fun port' hport' => ?_, ?_, ?_⟩
        · obtain ⟨port, hport, hthis⟩ := hold port' hport'
          rw [hthis.address]
          exact (hupdated port hport).1
        · rintro _ ⟨⟩ port' hport'
          dsimp only at hport' ⊢
          by_cases hend : ports.dropWhile (env.passes (upd.loopDetectMgmt = 2)) = []
          · rw [if_pos hend] at hmeets'
            rw [if_pos (ldControl_end.mpr hend)]
            rcases mem_ldControl hport' with ⟨port, hport, hthis, htid⟩ | hleft
            · have hmem : port ∈ ports := (List.takeWhile_sublist _).subset hport
              rw [htid, henabled port hmem, sends, hthis.uniMeId]
              cases hon : upd.enabled with
              | false => rfl
              | true =>
                  have hopen := hmeets' hon port hmem
                  simp [hopen]
            · rw [hend] at hleft
              cases hleft
          · rw [if_neg hend] at hmeets'
            rw [if_neg (mt ldControl_end.mp hend)]
            rcases mem_ldControl hport' with ⟨port, hport, hthis, htid⟩ | hleft
            · have hmem : port ∈ ports := (List.takeWhile_sublist _).subset hport
              rw [htid, henabled port hmem, hmeets'.2.1 port hport, sends, sends, hthis.uniMeId]
            · exact hmeets'.2.2 port' hleft
        · rintro _ ⟨⟩ port' hport'
          dsimp only at hport' ⊢
          obtain ⟨port, hport, hthis⟩ := hold port' hport'
          rw [hthis.pktRate, (hupdated port hport).2]
          by_cases hend : ports.dropWhile (env.passes (upd.loopDetectMgmt = 2)) = []
          · rw [if_pos (ldControl_end.mpr hend)]
          · rw [if_neg hend] at hmeets'
            rw [if_neg (mt ldControl_end.mp hend)]
            exact hmeets'.1

/-- One entry gets other timers, and UNIs are shut down or not anymore. -/
theorem Sound.replace (h : state.Sound) (hme : state.me = some me) {front back : List LdPort}
    {port port' : LdPort} (hports : me.ports = front ++ port :: back) (hsame : port.Same port')
    {timers : LdTimers} {shut : BitVec 16 → Bool}
    (hlinked : LdLinked (front ++ port' :: back) timers)
    (hport : decide (port'.sendTid ≠ 0) = (me.attrs.enabled && !shut port.uniMeId))
    (hothers : ∀ other ∈ front ++ back,
      (me.attrs.enabled && !shut other.uniMeId) = state.sends me.attrs other) :
    ({ state with me := some { me with ports := front ++ port' :: back }, timers, shut } :
      LdState).Sound := by
  have hall : state.ports = front ++ port :: back := (ports_eq hme).trans hports
  have hmem : port ∈ me.ports := hports ▸ LdLinked.mem_middle.mpr (.inl rfl)
  have hother : ∀ other ∈ front ++ back, other ∈ me.ports := fun other hin =>
    hports ▸ LdLinked.mem_middle.mpr (.inr hin)
  refine ⟨hlinked, fun port'' hin => ?_, ?_, ?_⟩
  · rcases LdLinked.mem_middle.mp hin with rfl | hin
    · rw [hsame.address]
      exact h.fresh port (ports_eq hme ▸ hmem)
    · exact h.fresh port'' (ports_eq hme ▸ hother port'' hin)
  · rintro _ ⟨⟩ port'' hin
    rcases LdLinked.mem_middle.mp hin with rfl | hin
    · rw [hport, sends, hsame.uniMeId]
    · rw [h.agree me hme port'' (hother port'' hin), ← hothers port'' hin, sends]
  · rintro _ ⟨⟩ port'' hin
    rcases LdLinked.mem_middle.mp hin with rfl | hin
    · rw [hsame.pktRate]
      exact h.rates me hme port hmem
    · exact h.rates me hme port'' (hother port'' hin)

/-- The event that expires is the one its entry knows. -/
theorem Sound.expiring (h : state.Sound) {timeoutId : Nat}
    (hany : state.timers.pending.any (·.timeoutId = timeoutId) = true) :
    ∃ timer me port front back, state.expiring timeoutId = some (timer, me, port) ∧
      state.me = some me ∧ timer ∈ state.timers.pending ∧ timer.timeoutId = timeoutId ∧
      me.ports = front ++ port :: back ∧
      (∀ change, modifyPort (·.address = timer.port) change me.ports =
        front ++ change port :: back) ∧
      port.tid timer.handler = timeoutId := by
  cases hfind : state.timers.pending.find? (·.timeoutId = timeoutId) with
  | none =>
      rw [List.find?_eq_none] at hfind
      obtain ⟨timer, htimer, hid⟩ := List.any_eq_true.mp hany
      exact absurd hid (hfind timer htimer)
  | some timer =>
      have htimer := List.mem_of_find?_eq_some hfind
      have hid : timer.timeoutId = timeoutId := by simpa using List.find?_some hfind
      obtain ⟨owner, howner, haddress, htid⟩ := h.linked.owner timer htimer
      cases hme : state.me with
      | none =>
          rw [ports, hme] at howner
          cases howner
      | some me =>
          have hports := ports_eq hme
          rw [hports] at howner
          cases hport : me.ports.find? (·.address = timer.port) with
          | none =>
              rw [List.find?_eq_none] at hport
              exact absurd (hport owner howner) (by simp [haddress])
          | some port =>
              have haddress' : port.address = timer.port := by simpa using List.find?_some hport
              have hsame : owner = port := List.inj_on_of_nodup_map h.linked.addresses
                (hports ▸ howner) (hports ▸ List.mem_of_find?_eq_some hport)
                (haddress.trans haddress'.symm)
              obtain ⟨front, back, hsplit, hchange⟩ := modifyPort_of_find? hport
              refine ⟨timer, me, port, front, back, ?_, rfl, htimer, hid, hsplit, hchange, ?_⟩
              · simp [LdState.expiring, hfind, hme, hport]
              · rw [← hsame, htid, hid]

theorem add_remove {timers : LdTimers} {timer : LdTimer} (htimer : timer ∈ timers.pending)
    (handler : LdHandler) (port : Nat) : (timers.add handler port).remove timer.timeoutId =
      (timers.remove timer.timeoutId).add handler port := by
  have herase : (timers.pending ++ [LdTimer.mk (timers.lastTimeoutId + 1) handler port]).eraseP
      (·.timeoutId = timer.timeoutId) =
      timers.pending.eraseP (·.timeoutId = timer.timeoutId) ++
        [LdTimer.mk (timers.lastTimeoutId + 1) handler port] :=
    List.eraseP_append_left (by simp) _ htimer
  simp only [LdTimers.add, LdTimers.remove, herase]

/-- An expiry that meets the condition. -/
theorem Sound.expire (h : state.Sound) {timeoutId : Nat} {env : LdExpireEnv}
    (hany : state.timers.pending.any (·.timeoutId = timeoutId) = true)
    (hmeets : state.Meets (.expire timeoutId env)) : (state.expire timeoutId env).Sound := by
  obtain ⟨timer, me, port, front, back, hexpiring, hme, htimer, hid, hports, hchange, htid⟩ :=
    h.expiring hany
  have hwell := hmeets _ hexpiring
  have hmem : port ∈ me.ports := hports ▸ LdLinked.mem_middle.mpr (.inl rfl)
  have hlinked : LdLinked (front ++ port :: back) state.timers :=
    hports ▸ ports_eq hme ▸ h.linked
  have hpos : timeoutId ≠ 0 := by
    have hrange := (h.linked.range timer htimer).1
    omega
  have hagree := h.agree me hme port hmem
  rw [LdState.expire, hexpiring]
  dsimp only
  rw [hchange]
  cases hhandler : timer.handler with
  | send =>
      rw [hhandler] at htid
      obtain ⟨hdriver, hmemory⟩ := hwell.1 hhandler
      have hsendTid : port.sendTid ≠ 0 := htid.trans_ne hpos
      have hon : me.attrs.enabled = true ∧ state.shut port.uniMeId = false := by
        rw [← sends_eq_true, ← hagree]
        exact decide_eq_true hsendTid
      have hrate : port.pktRate ≠ 0 :=
        mt (h.rates me hme port hmem).mp (LdAttrs.enabled_eq_true.mp hon.1).2
      have hstart : ldSendTimeout env state.timers port =
          (port.setTid (state.timers.lastTimeoutId + 1) .send,
            state.timers.add .send port.address) := by
        rw [ldSendTimeout, ldTimerStart, hdriver, hmemory, if_neg (by simp),
          if_pos ⟨hsendTid, hrate⟩, if_pos rfl]
      simp only [hstart, reduceCtorEq, false_and, if_false]
      refine h.replace hme hports LdPort.setTid_same ?_ ?_ fun other _ => rfl
      · have hstop := hlinked.stop (htid.trans_ne hpos)
        have hagain := hstop.start (LdPort.tid_setTid_same _ _ _)
        rw [← hid, add_remove htimer, hid, ← htid]
        exact hagain
      · rw [hon.1, hon.2]
        exact decide_eq_true (Nat.succ_ne_zero _)
  | recovery =>
      rw [hhandler] at htid
      have hwell := hwell.2 hhandler
      have hrate : port.pktRate ≠ 0 ↔ me.attrs.loopDetectFreq ≠ 0 :=
        not_congr (h.rates me hme port hmem)
      have hstopped := hlinked.stop (htid.trans_ne hpos)
      rw [htid] at hstopped
      by_cases hstarts : env.uniFound = true ∧ me.attrs.loopDetectMgmt ≠ 0 ∧
          me.attrs.loopDetectFreq ≠ 0 ∧ env.memory = true
      · obtain ⟨huni, hmgmt, hfreq, hmemory⟩ := hstarts
        obtain ⟨hwell, hothers⟩ := hwell huni
        obtain ⟨hon, hshut, hdriver⟩ := hwell.mp ⟨hmgmt, hfreq, hmemory⟩
        have hsendTid : port.tid .send = 0 := by
          rw [sends, hon, hshut] at hagree
          exact not_not.mp (of_decide_eq_false hagree)
        have hstart : ldRecoveryTimeout env me.attrs.loopDetectMgmt state.timers port =
            ((port.setTid 0 .recovery).setTid (state.timers.lastTimeoutId + 1) .send,
              state.timers.add .send port.address) := by
          rw [ldRecoveryTimeout, LdPort.setTid_pktRate, if_pos ⟨huni, hmgmt, hrate.mpr hfreq⟩, hmemory,
            ldTimerStart, if_pos rfl, LdPort.setTid_address]
        simp only [hstart, huni, hdriver, and_self, if_true]
        refine h.replace hme hports ⟨by simp, by simp, by simp⟩ ?_ ?_ ?_
        · have hagain := hstopped.start
            ((LdPort.tid_setTid_of_ne (by decide)).trans hsendTid)
          rw [← hid, add_remove htimer, hid]
          simpa [LdTimers.remove] using hagain
        · rw [hon, Function.update_self]
          exact decide_eq_true (Nat.succ_ne_zero _)
        · intro other hother
          have huniNe : other.uniMeId ≠ port.uniMeId := fun hsame =>
            hlinked.address_ne other hother (hothers hon hshut hdriver other
              (hports ▸ LdLinked.mem_middle.mpr (.inr hother)) hsame)
          rw [Function.update_of_ne huniNe, sends]
      · have hstop : ldRecoveryTimeout env me.attrs.loopDetectMgmt state.timers port =
            (port.setTid 0 .recovery, state.timers) := by
          rw [ldRecoveryTimeout, LdPort.setTid_pktRate]
          split
          · rename_i hcond
            rw [ldTimerStart, if_neg fun hmemory =>
              hstarts ⟨hcond.1, hcond.2.1, hrate.mp hcond.2.2, hmemory⟩]
          · rfl
        simp only [hstop, true_and]
        -- the UNI is enabled only if detection is off, or it was not shut down
        have hsame : ∀ uniMeId, (me.attrs.enabled && !(if env.uniFound = true ∧ env.driver = true
            then Function.update state.shut port.uniMeId false else state.shut) uniMeId) =
            (me.attrs.enabled && !state.shut uniMeId) := by
          intro uniMeId
          split
          · rename_i hcond
            cases hon : me.attrs.enabled with
            | false => rfl
            | true =>
                have hopen : state.shut port.uniMeId = false := by
                  refine Bool.eq_false_iff.mpr fun hshut => hstarts ⟨hcond.1, ?_⟩
                  exact (hwell hcond.1).1.mpr ⟨hon, hshut, hcond.2⟩
                rw [← hopen, Function.update_eq_self]
          · rfl
        refine h.replace hme hports LdPort.setTid_same hstopped ?_ fun other _ => hsame _
        rw [hsame]
        exact hagree

/-- A loop report that meets the condition. -/
theorem Sound.loop (h : state.Sound) {uniMeId : BitVec 16} {memory : Bool}
    (hmeets : state.Meets (.loop uniMeId memory)) :
    (state.loopDetectAction uniMeId memory).Sound := by
  unfold loopDetectAction
  cases hme : state.me with
  | none => exact h
  | some me =>
      dsimp only
      cases hfind : me.ports.find? (·.uniMeId = uniMeId) with
      | none => exact h
      | some port =>
          dsimp only
          by_cases hdown : me.attrs.loopPortDown = 1
          · rw [if_pos hdown]
            have huni : port.uniMeId = uniMeId := by simpa using List.find?_some hfind
            have hmem : port ∈ me.ports := List.mem_of_find?_eq_some hfind
            obtain ⟨front, back, hports, hchange⟩ := modifyPort_of_find? hfind
            rw [hchange]
            have hlinked : LdLinked (front ++ port :: back) state.timers :=
              hports ▸ ports_eq hme ▸ h.linked
            -- the entry stops sending, and may wait for its recovery
            have haction : ∀ action, action = ldLoopAction memory me.attrs.loopRecoveryInt
                state.timers port → port.Same action.1 ∧ action.1.tid .send = 0 ∧
                LdLinked (front ++ action.1 :: back) action.2 := by
              rintro _ rfl
              have hstop := hlinked.timerStop .send
              unfold ldLoopAction
              dsimp only
              split
              · have hclear := hstop.timerStop .recovery
                have hstart := hclear.timerStart memory .recovery (by
                  rw [ldTimerStop_port]
                  exact LdPort.tid_setTid_same _ _ _)
                refine ⟨?_, ?_, hstart⟩
                · rw [ldTimerStart_port, ldTimerStop_port, ldTimerStop_port]
                  split <;> exact ⟨by simp, by simp, by simp⟩
                · rw [ldTimerStart_port, ldTimerStop_port, ldTimerStop_port]
                  split <;> rfl
              · rw [ldTimerStop_port] at hstop ⊢
                exact ⟨LdPort.setTid_same, rfl, hstop⟩
            obtain ⟨hsame, hsend, hlinked'⟩ := haction _ rfl
            refine h.replace hme hports hsame hlinked' ?_ fun other hother => ?_
            · rw [huni, Function.update_self, Bool.not_true, Bool.and_false]
              exact decide_eq_false (not_not.mpr hsend)
            · by_cases hother' : other.uniMeId = uniMeId
              · rw [hother', Function.update_self, sends, hother', Bool.not_true, Bool.and_false]
                have hin : other ∈ me.ports := hports ▸ LdLinked.mem_middle.mpr (.inr hother)
                refine (Bool.eq_false_iff.mpr fun hon => ?_).symm
                obtain ⟨henabled, hopen⟩ := (Bool.and_eq_true _ _).mp hon
                refine hlinked.address_ne other hother ?_
                exact hmeets me hme hdown henabled (by simpa using hopen) other hin port hmem
                  hother' huni
              · rw [Function.update_of_ne hother', sends]
          · rw [if_neg hdown]
            exact h

theorem ldMeShutdown_linked {front ports : List LdPort} {timers : LdTimers}
    (h : LdLinked (front ++ ports) timers) : LdLinked front (ldMeShutdown ports timers) := by
  induction ports generalizing timers with
  | nil => rwa [List.append_nil] at h
  | cons port rest ih =>
      have hstop := (h.timerStop .send).timerStop .recovery
      rw [ldMeShutdown]
      refine ih (hstop.free fun handler => ?_)
      rw [ldTimerStop_port, ldTimerStop_port]
      cases handler <;> rfl

/-- Every step that meets the condition keeps what holds in such runs. -/
theorem Sound.step (h : before.Sound) {event : LdEvent} (hmeets : before.Meets event)
    (hstep : ldStep before event = some after) : after.Sound := by
  cases event with
  | create attrs =>
      rw [ldStep] at hstep
      cases hme : before.me with
      | some me => simp [hme] at hstep
      | none =>
          rw [hme] at hstep
          obtain rfl := Option.some.inj hstep
          have hlinked := h.linked
          rw [ports, hme] at hlinked
          refine ⟨hlinked, nofun, ?_, ?_⟩
          · rintro _ ⟨⟩
            exact nofun
          · rintro _ ⟨⟩
            exact nofun
  | delete =>
      rw [ldStep] at hstep
      cases hme : before.me with
      | none => simp [hme] at hstep
      | some me =>
          rw [hme] at hstep
          obtain rfl := Option.some.inj hstep
          have hlinked : LdLinked ([] ++ me.ports) before.timers := ports_eq hme ▸ h.linked
          exact ⟨ldMeShutdown_linked hlinked, nofun, nofun, nofun⟩
  | set request env =>
      rw [ldStep] at hstep
      cases hme : before.me with
      | none => simp [hme] at hstep
      | some me =>
          rw [hme] at hstep
          obtain rfl := Option.some.inj hstep
          exact h.set hme hmeets
  | expire timeoutId env =>
      obtain ⟨hany, hafter⟩ := Option.ite_none_right_eq_some.mp hstep
      obtain rfl := Option.some.inj hafter
      exact h.expire hany hmeets
  | loop uniMeId memory =>
      obtain rfl := Option.some.inj hstep
      exact h.loop hmeets

/-- A frame goes to an UNI whose entry is sending. -/
theorem Sound.quiet (h : state.Sound) {event : LdEvent} {frame : LdVlanEntry}
    (hframe : state.frame event = some frame) :
    (∃ me, state.me = some me ∧ me.attrs.enabled = true) ∧ state.shut frame.uniMeId = false := by
  cases event with
  | expire timeoutId env =>
      rw [LdState.frame] at hframe
      split at hframe
      · rename_i id port me entry hexpiring
        obtain ⟨_, hframe⟩ := Option.ite_none_right_eq_some.mp hframe
        obtain rfl := Option.some.inj hframe
        have hany : state.timers.pending.any (·.timeoutId = timeoutId) = true := by
          cases hfind : state.timers.pending.find? (·.timeoutId = timeoutId) with
          | none => simp [LdState.expiring, hfind] at hexpiring
          | some timer =>
              exact List.any_eq_true.mpr
                ⟨timer, List.mem_of_find?_eq_some hfind, by simpa using List.find?_some hfind⟩
        obtain ⟨timer, me', entry', front, back, hsame, hme, htimer, hid, hports, _, htid⟩ :=
          h.expiring hany
        obtain ⟨rfl, rfl, rfl⟩ : timer = ⟨id, .send, port⟩ ∧ me' = me ∧ entry' = entry := by
          simpa using hsame.symm.trans hexpiring
        have hsendTid : entry'.sendTid ≠ 0 := by
          have hrange := (h.linked.range _ htimer).1
          exact htid.trans_ne (hid ▸ Nat.ne_of_gt hrange)
        have hon := h.agree me' hme entry' (hports ▸ LdLinked.mem_middle.mpr (.inl rfl))
        obtain ⟨henabled, hopen⟩ := sends_eq_true.mp (hon.symm.trans (decide_eq_true hsendTid))
        exact ⟨⟨me', hme, henabled⟩, hopen⟩
      · cases hframe
  | create attrs => cases hframe
  | delete => cases hframe
  | set request env => cases hframe
  | loop uniMeId memory => cases hframe

end LdState

end FalconGpon.Omci
