/-
# Loop detection

The ONU Loop Detection ME keeps an entry for each port with the identifiers of its send and
recovery timers. A SET starts and stops the send timers, which start themselves again; a loop
report stops the one of its port, shuts the port down and starts the recovery timer, which
enables the port and starts sending again. `LdLinked` relates the entries to the
pending timers.
-/

import Mathlib.Data.List.Nodup
import FalconGpon.Lib.Transition

namespace FalconGpon.Omci

open FalconGpon.Lib

/-! ## Timers -/

/-- `ld_send_timeout` and `ld_recovery_timeout`. -/
inductive LdHandler
  | send
  | recovery
deriving DecidableEq

/-- A pending event; `port` is the entry that `arg1` points to. -/
structure LdTimer where
  timeoutId : Nat
  handler : LdHandler
  port : Nat
deriving DecidableEq

/-- The pending events of the handlers; `last_timeout_id` does not come around to the identifier
of one that is still pending. -/
structure LdTimers where
  pending : List LdTimer
  lastTimeoutId : Nat
deriving DecidableEq

namespace LdTimers

/-- `timeout_event_add`. -/
def add (timers : LdTimers) (handler : LdHandler) (port : Nat) : LdTimers where
  pending := timers.pending ++ [⟨timers.lastTimeoutId + 1, handler, port⟩]
  lastTimeoutId := timers.lastTimeoutId + 1

/-- `timeout_event_remove`, which succeeds whether there is such an event or not. -/
def remove (timers : LdTimers) (timeoutId : Nat) : LdTimers :=
  { timers with pending := timers.pending.eraseP (·.timeoutId = timeoutId) }

end LdTimers

/-! ## Entries and attributes -/

/-- `struct ld_port`; `address` tells an entry from all others, also from those freed. -/
structure LdPort where
  address : Nat
  portIndex : BitVec 8
  uniMeId : BitVec 16
  svlan : BitVec 16
  cvlan : BitVec 16
  sendTid : Nat
  recoveryTid : Nat
  pktRate : BitVec 16
deriving DecidableEq

namespace LdPort

def tid (port : LdPort) : LdHandler → Nat
  | .send => port.sendTid
  | .recovery => port.recoveryTid

def setTid (port : LdPort) (timeoutId : Nat) : LdHandler → LdPort
  | .send => { port with sendTid := timeoutId }
  | .recovery => { port with recoveryTid := timeoutId }

end LdPort

/-- `struct omci_onu_loop_detection`. -/
structure LdAttrs where
  operatorId : BitVec 32
  loopDetectMgmt : BitVec 16
  loopPortDown : BitVec 16
  loopDetectFreq : BitVec 16
  loopRecoveryInt : BitVec 16
  portVlanTable : Vector (BitVec 8) 28
deriving DecidableEq

def LdAttrs.enabled (attrs : LdAttrs) : Bool :=
  attrs.loopDetectMgmt = 2 && attrs.loopDetectFreq ≠ 0

/-- The attributes that a SET carries. -/
structure LdRequest where
  operatorId : Option (BitVec 32)
  loopDetectMgmt : Option (BitVec 16)
  loopPortDown : Option (BitVec 16)
  loopDetectFreq : Option (BitVec 16)
  loopRecoveryInt : Option (BitVec 16)
  portVlanTable : Option (Vector (BitVec 8) 28)
deriving DecidableEq

/-- `upd_data`: what the ME has, with the attributes of the SET. -/
def LdRequest.updData (request : LdRequest) (attrs : LdAttrs) : LdAttrs where
  operatorId := request.operatorId.getD attrs.operatorId
  loopDetectMgmt := request.loopDetectMgmt.getD attrs.loopDetectMgmt
  loopPortDown := request.loopPortDown.getD attrs.loopPortDown
  loopDetectFreq := request.loopDetectFreq.getD attrs.loopDetectFreq
  loopRecoveryInt := request.loopRecoveryInt.getD attrs.loopRecoveryInt
  portVlanTable := request.portVlanTable.getD attrs.portVlanTable

/-- The octets that the values take in the message. -/
def LdRequest.size (request : LdRequest) : Nat :=
  (if request.operatorId.isSome then 4 else 0) + (if request.loopDetectMgmt.isSome then 2 else 0) +
    (if request.loopPortDown.isSome then 2 else 0) +
    (if request.loopDetectFreq.isSome then 2 else 0) +
    (if request.loopRecoveryInt.isSome then 2 else 0) +
    if request.portVlanTable.isSome then 28 else 0

/-- An entry of the port VLAN table as the OLT writes it. -/
structure LdVlanEntry where
  portIndex : BitVec 8
  uniMeId : BitVec 16
  svlan : BitVec 16
  cvlan : BitVec 16
deriving DecidableEq

/-- `ld_parse_vlan_entry`. -/
def ldParseVlanEntry (raw : Vector (BitVec 8) 28) : LdVlanEntry where
  portIndex := raw[0]
  uniMeId := raw[1] ++ raw[2]
  svlan := raw[3] ++ raw[4]
  cvlan := raw[5] ++ raw[6]

/-- The ME, with the entries of its `internal_data`. -/
structure LdMe where
  attrs : LdAttrs
  ports : List LdPort

/-- `shut` are the UNIs that a loop report has disabled and no recovery has enabled again;
`address` is that of the next entry. -/
structure LdState where
  me : Option LdMe
  timers : LdTimers
  address : Nat
  shut : BitVec 16 → Bool

/-! ## The SET action -/

/-- What a SET meets: whether the UNI exists, there is memory for the entry and for a timer, and
which driver calls succeed. -/
structure LdSetEnv where
  uniFound : Bool
  memory : Bool
  driver : BitVec 8 → Bool
  timerMemory : BitVec 8 → Bool

/-- Change the first entry that has a property. -/
def modifyPort (pred : LdPort → Bool) (change : LdPort → LdPort) : List LdPort → List LdPort
  | [] => []
  | port :: rest =>
      if pred port then change port :: rest else port :: modifyPort pred change rest

/-- The first phase of `omci_onu_loop_detection_me_update`; `none` if it fails. -/
def ldTableSet (env : LdSetEnv) (address : Nat) (entry : LdVlanEntry) (ports : List LdPort) :
    Option (List LdPort) :=
  if 4 ≤ entry.portIndex.toNat then none
  else if !env.uniFound then none
  else
    match ports.find? (·.portIndex = entry.portIndex) with
    | some _ =>
        some (modifyPort (·.portIndex = entry.portIndex) (fun port =>
          { port with uniMeId := entry.uniMeId, svlan := entry.svlan, cvlan := entry.cvlan }) ports)
    | none =>
        if env.memory then
          some (ports ++ [{
            address, portIndex := entry.portIndex, uniMeId := entry.uniMeId
            svlan := entry.svlan, cvlan := entry.cvlan, sendTid := 0, recoveryTid := 0
            pktRate := 0 }])
        else none

def ldRateSet (freq : BitVec 16) (ports : List LdPort) : List LdPort :=
  ports.map fun port => { port with pktRate := freq }

/-- Start a timer of an entry, which gets the identifier; without memory for the event it does
not. -/
def ldTimerStart (timers : LdTimers) (memory : Bool) (handler : LdHandler) (port : LdPort) :
    LdPort × LdTimers :=
  if memory then
    (port.setTid (timers.lastTimeoutId + 1) handler, timers.add handler port.address)
  else (port, timers)

/-- Stop a timer of an entry if it has an identifier. -/
def ldTimerStop (timers : LdTimers) (handler : LdHandler) (port : LdPort) : LdPort × LdTimers :=
  if port.tid handler ≠ 0 then (port.setTid 0 handler, timers.remove (port.tid handler))
  else (port, timers)

/-- The third phase for one entry; `none` if it fails. -/
def ldControlPort (env : LdSetEnv) (enable : Bool) (port : LdPort) (timers : LdTimers) :
    Option (LdPort × LdTimers) :=
  if !env.driver port.portIndex then none
  else if !enable || port.pktRate = 0 then some (ldTimerStop timers .send port)
  else if port.sendTid = 0 then
    if env.timerMemory port.portIndex then some (ldTimerStart timers true .send port) else none
  else some (port, timers)

/-- The third phase; it ends at the first error. -/
def ldControl (env : LdSetEnv) (enable : Bool) : List LdPort → LdTimers →
    List LdPort × LdTimers × Bool
  | [], timers => ([], timers, true)
  | port :: rest, timers =>
      match ldControlPort env enable port timers with
      | none => (port :: rest, timers, false)
      | some (port, timers) =>
          (port :: (ldControl env enable rest timers).1, (ldControl env enable rest timers).2)

/-- The entries after the first two phases; `none` if the first one fails. -/
def ldTableUpdate (env : LdSetEnv) (address : Nat) (request : LdRequest) (upd : LdAttrs)
    (ports : List LdPort) : Option (List LdPort) :=
  match request.portVlanTable with
  | none => some (ldRateSet upd.loopDetectFreq ports)
  | some _ =>
      (ldTableSet env address (ldParseVlanEntry upd.portVlanTable) ports).map
        (ldRateSet upd.loopDetectFreq)

/-- A SET of the ME and whether it is answered with success: `me_data_fetch` takes the values from
30 octets, nothing is updated if the attributes are what they were, and
`omci_onu_loop_detection_me_update` is called otherwise. -/
def LdState.meSet (state : LdState) (me : LdMe) (request : LdRequest) (env : LdSetEnv) :
    LdState × Bool :=
  let upd := request.updData me.attrs
  if 30 < request.size then (state, false)
  else if upd = me.attrs then (state, true)
  else
    match ldTableUpdate env state.address request upd me.ports with
    | none => (state, false)
    | some ports =>
        let done := ldControl env (upd.loopDetectMgmt = 2) ports state.timers
        ({ state with
            me := some ⟨if done.2.2 then upd else me.attrs, done.1⟩
            timers := done.2.1
            address := state.address + 1 },
          done.2.2)

/-! ## Expiries, loop reports and deletion -/

/-- What an expiry meets: whether the driver call succeeds, there is memory for a timer, and the
UNI exists. -/
structure LdExpireEnv where
  driver : Bool
  memory : Bool
  uniFound : Bool
deriving DecidableEq

/-- `ld_send_timeout` after the frame. -/
def ldSendTimeout (env : LdExpireEnv) (timers : LdTimers) (port : LdPort) : LdPort × LdTimers :=
  if !env.driver then (port, timers)
  else if port.sendTid ≠ 0 ∧ port.pktRate ≠ 0 then ldTimerStart timers env.memory .send port
  else (port, timers)

/-- `ld_recovery_timeout`, with `detect_mgmt`; what the call to enable the port returns is
ignored. -/
def ldRecoveryTimeout (env : LdExpireEnv) (detectMgmt : BitVec 16) (timers : LdTimers)
    (port : LdPort) : LdPort × LdTimers :=
  let port := port.setTid 0 .recovery
  if env.uniFound ∧ detectMgmt ≠ 0 ∧ port.pktRate ≠ 0 then
    ldTimerStart timers env.memory .send port
  else (port, timers)

/-- `omci_onu_loop_detect_action` on the entry it has found. -/
def ldLoopAction (memory : Bool) (recoveryInt : BitVec 16) (timers : LdTimers) (port : LdPort) :
    LdPort × LdTimers :=
  let stopped := ldTimerStop timers .send port
  if recoveryInt ≠ 0 then
    let cleared := ldTimerStop stopped.2 .recovery stopped.1
    ldTimerStart cleared.2 memory .recovery cleared.1
  else stopped

/-- The timers after `omci_onu_loop_detection_me_shutdown`. -/
def ldMeShutdown : List LdPort → LdTimers → LdTimers
  | [], timers => timers
  | port :: rest, timers =>
      let stopped := ldTimerStop timers .send port
      ldMeShutdown rest (ldTimerStop stopped.2 .recovery stopped.1).2

/-- What happens to the ME. -/
inductive LdEvent
  | create (attrs : LdAttrs)
  | delete
  | set (request : LdRequest) (env : LdSetEnv)
  /-- The handler of a pending event runs. -/
  | expire (timeoutId : Nat) (env : LdExpireEnv)
  /-- The kernel reports a loop. -/
  | loop (uniMeId : BitVec 16) (memory : Bool)

namespace LdState

/-- The pending event that an expiry is about, and its entry. -/
def expiring (state : LdState) (timeoutId : Nat) : Option (LdTimer × LdMe × LdPort) := do
  let timer ← state.timers.pending.find? (·.timeoutId = timeoutId)
  let me ← state.me
  let port ← me.ports.find? (·.address = timer.port)
  some (timer, me, port)

/-- An event expires; a handler with an entry that has been freed is not looked into. -/
def expire (state : LdState) (timeoutId : Nat) (env : LdExpireEnv) : LdState :=
  match state.expiring timeoutId with
  | none => { state with timers := state.timers.remove timeoutId }
  | some (timer, me, port) =>
      let done := match timer.handler with
        | .send => ldSendTimeout env state.timers port
        | .recovery => ldRecoveryTimeout env me.attrs.loopDetectMgmt state.timers port
      { state with
        me := some { me with
          ports := modifyPort (·.address = timer.port) (fun _ => done.1) me.ports }
        timers := done.2.remove timeoutId
        shut := if timer.handler = .recovery ∧ env.uniFound ∧ env.driver then
            Function.update state.shut port.uniMeId false
          else state.shut }

/-- `omci_onu_loop_detect_action`. -/
def loopDetectAction (state : LdState) (uniMeId : BitVec 16) (memory : Bool) : LdState :=
  match state.me with
  | none => state
  | some me =>
      match me.ports.find? (·.uniMeId = uniMeId) with
      | none => state
      | some port =>
          if me.attrs.loopPortDown = 1 then
            let done := ldLoopAction memory me.attrs.loopRecoveryInt state.timers port
            { state with
              me := some { me with
                ports := modifyPort (·.uniMeId = uniMeId) (fun _ => done.1) me.ports }
              timers := done.2
              shut := Function.update state.shut uniMeId true }
          else state

/-- The loop detection frame that an event sends, with the UNI it is sent to. -/
def frame (state : LdState) : LdEvent → Option LdVlanEntry
  | .expire timeoutId env =>
      match state.expiring timeoutId with
      | some (⟨_, .send, _⟩, _, port) =>
          if env.driver then some ⟨port.portIndex, port.uniMeId, port.svlan, port.cvlan⟩ else none
      | _ => none
  | _ => none

end LdState

/-- A step. -/
def ldStep (state : LdState) : LdEvent → Option LdState
  | .create attrs =>
      match state.me with
      | none => some { state with me := some ⟨attrs, []⟩ }
      | some _ => none
  | .delete =>
      match state.me with
      | none => none
      | some me => some { state with me := none, timers := ldMeShutdown me.ports state.timers }
  | .set request env =>
      match state.me with
      | none => none
      | some me => some (state.meSet me request env).1
  | .expire timeoutId env =>
      if state.timers.pending.any (·.timeoutId = timeoutId) then some (state.expire timeoutId env)
      else none
  | .loop uniMeId memory => some (state.loopDetectAction uniMeId memory)

/-- Entries and pending events belong to each other: an event is the one that its entry knows by
its identifier, and an identifier of an entry is that of an event. -/
structure LdLinked (ports : List LdPort) (timers : LdTimers) : Prop where
  addresses : (ports.map (·.address)).Nodup
  timeoutIds : (timers.pending.map (·.timeoutId)).Nodup
  range : ∀ timer ∈ timers.pending,
    0 < timer.timeoutId ∧ timer.timeoutId ≤ timers.lastTimeoutId
  owner : ∀ timer ∈ timers.pending, ∃ port ∈ ports,
    port.address = timer.port ∧ port.tid timer.handler = timer.timeoutId
  held : ∀ port ∈ ports, ∀ handler, port.tid handler ≠ 0 →
    ⟨port.tid handler, handler, port.address⟩ ∈ timers.pending

@[simp] theorem LdPort.setTid_address (port : LdPort) (timeoutId : Nat) (handler : LdHandler) :
    (port.setTid timeoutId handler).address = port.address := by
  cases handler <;> rfl

@[simp] theorem LdPort.setTid_uniMeId (port : LdPort) (timeoutId : Nat) (handler : LdHandler) :
    (port.setTid timeoutId handler).uniMeId = port.uniMeId := by
  cases handler <;> rfl

@[simp] theorem LdPort.setTid_pktRate (port : LdPort) (timeoutId : Nat) (handler : LdHandler) :
    (port.setTid timeoutId handler).pktRate = port.pktRate := by
  cases handler <;> rfl

@[simp] theorem LdPort.tid_setTid_same (port : LdPort) (timeoutId : Nat) (handler : LdHandler) :
    (port.setTid timeoutId handler).tid handler = timeoutId := by
  cases handler <;> rfl

theorem LdPort.tid_setTid_of_ne {port : LdPort} {timeoutId : Nat} {handler other : LdHandler}
    (hne : other ≠ handler) : (port.setTid timeoutId handler).tid other = port.tid other := by
  cases handler <;> cases other <;> first | rfl | exact absurd rfl hne

/-- An entry that is found stands between others, and only it is changed. -/
theorem modifyPort_of_find? {pred : LdPort → Bool} {port : LdPort} {ports : List LdPort}
    (hfind : ports.find? pred = some port) :
    ∃ before after, ports = before ++ port :: after ∧
      ∀ change, modifyPort pred change ports = before ++ change port :: after := by
  induction ports with
  | nil => cases hfind
  | cons first rest ih =>
      rw [List.find?_cons] at hfind
      cases hpred : pred first with
      | true =>
          rw [hpred] at hfind
          obtain rfl := Option.some.inj hfind
          exact ⟨[], rest, rfl, fun change => by rw [modifyPort, if_pos hpred]; rfl⟩
      | false =>
          rw [hpred] at hfind
          obtain ⟨before, after, rfl, hchange⟩ := ih hfind
          refine ⟨first :: before, after, rfl, fun change => ?_⟩
          rw [modifyPort, if_neg (by simp [hpred]), hchange]
          rfl

namespace LdLinked

variable {before after ports : List LdPort} {port : LdPort} {timers : LdTimers}

theorem mem_middle {port' : LdPort} :
    port' ∈ before ++ port :: after ↔ port' = port ∨ port' ∈ before ++ after := by
  simp only [List.mem_append, List.mem_cons]
  tauto

theorem address_ne (h : LdLinked (before ++ port :: after) timers) :
    ∀ other ∈ before ++ after, other.address ≠ port.address := by
  have hnodup := h.addresses
  rw [List.map_append, List.map_cons, List.nodup_middle, List.nodup_cons, ← List.map_append]
    at hnodup
  intro other hother hsame
  exact hnodup.1 (hsame ▸ List.mem_map_of_mem hother)

theorem eq_of_timeoutId (h : LdLinked ports timers) {timer other : LdTimer}
    (htimer : timer ∈ timers.pending) (hother : other ∈ timers.pending)
    (hsame : timer.timeoutId = other.timeoutId) : timer = other :=
  List.inj_on_of_nodup_map h.timeoutIds htimer hother hsame

/-- A removal takes the event with the identifier. -/
theorem mem_remove (h : LdLinked ports timers) {timeoutId : Nat} {timer : LdTimer} :
    timer ∈ (timers.remove timeoutId).pending ↔
      timer ∈ timers.pending ∧ timer.timeoutId ≠ timeoutId := by
  have hnodup : timers.pending.Nodup := h.timeoutIds.of_map
  constructor
  · intro hmem
    have hold : timer ∈ timers.pending := List.mem_of_mem_eraseP hmem
    refine ⟨hold, fun hid => ?_⟩
    obtain ⟨first, before, after, hbefore, hfirst, hsplit, herase⟩ :=
      List.exists_of_eraseP hold (p := (·.timeoutId = timeoutId)) (by simpa using hid)
    have hfirstId : first.timeoutId = timeoutId := by simpa using hfirst
    have hmemFirst : first ∈ timers.pending := by
      rw [hsplit]
      exact List.mem_append_right _ List.mem_cons_self
    obtain rfl : timer = first := h.eq_of_timeoutId hold hmemFirst (hid.trans hfirstId.symm)
    rw [LdTimers.remove, herase] at hmem
    rw [hsplit, List.nodup_middle, List.nodup_cons] at hnodup
    exact hnodup.1 hmem
  · rintro ⟨hold, hid⟩
    exact (List.mem_eraseP_of_neg (by simpa using hid)).mpr hold

/-- A change of an entry that keeps its address and its identifiers. -/
theorem edit (h : LdLinked (before ++ port :: after) timers) {edited : LdPort}
    (haddress : edited.address = port.address)
    (htid : ∀ handler, edited.tid handler = port.tid handler) :
    LdLinked (before ++ edited :: after) timers := by
  refine ⟨?_, h.timeoutIds, h.range, ?_, ?_⟩
  · simpa [haddress] using h.addresses
  · intro timer htimer
    obtain ⟨owner, howner, hat, hid⟩ := h.owner timer htimer
    rcases mem_middle.mp howner with rfl | hother
    · exact ⟨edited, mem_middle.mpr (.inl rfl), haddress.trans hat, (htid _).trans hid⟩
    · exact ⟨owner, mem_middle.mpr (.inr hother), hat, hid⟩
  · intro holder hholder handler hne
    rcases mem_middle.mp hholder with rfl | hother
    · rw [htid] at hne ⊢
      rw [haddress]
      exact h.held port (mem_middle.mpr (.inl rfl)) handler hne
    · exact h.held holder (mem_middle.mpr (.inr hother)) handler hne

/-- The end of a timer: its event is removed and its entry has no identifier for it. -/
theorem stop (h : LdLinked (before ++ port :: after) timers) {handler : LdHandler}
    (htid : port.tid handler ≠ 0) :
    LdLinked (before ++ port.setTid 0 handler :: after) (timers.remove (port.tid handler)) := by
  have hport : port ∈ before ++ port :: after := mem_middle.mpr (.inl rfl)
  have hevent := h.held port hport handler htid
  refine ⟨?_, ?_, fun timer htimer => h.range timer (h.mem_remove.mp htimer).1, ?_, ?_⟩
  · simpa using h.addresses
  · exact h.timeoutIds.sublist (List.eraseP_sublist.map _)
  · intro timer htimer
    obtain ⟨hold, hid⟩ := h.mem_remove.mp htimer
    obtain ⟨owner, howner, hat, hown⟩ := h.owner timer hold
    rcases mem_middle.mp howner with rfl | hother
    · have hhandler : timer.handler ≠ handler := by
        rintro rfl
        exact hid hown.symm
      exact ⟨_, mem_middle.mpr (.inl rfl), by simpa using hat,
        (LdPort.tid_setTid_of_ne hhandler).trans hown⟩
    · exact ⟨owner, mem_middle.mpr (.inr hother), hat, hown⟩
  · intro holder hholder other hne
    rw [h.mem_remove]
    rcases mem_middle.mp hholder with rfl | hother
    · have hhandler : other ≠ handler := by
        rintro rfl
        simp at hne
      rw [LdPort.tid_setTid_of_ne hhandler] at hne ⊢
      have hheld := h.held port hport other hne
      refine ⟨by simpa using hheld, fun hid => hhandler ?_⟩
      -- two handlers of an entry have events with different identifiers
      have hsame := h.eq_of_timeoutId hheld hevent hid
      exact congrArg LdTimer.handler hsame
    · have hheld := h.held holder (mem_middle.mpr (.inr hother)) other hne
      refine ⟨hheld, fun hid => h.address_ne holder hother ?_⟩
      exact congrArg LdTimer.port (h.eq_of_timeoutId hheld hevent hid)

/-- The start of a timer whose entry has no identifier for it. -/
theorem start (h : LdLinked (before ++ port :: after) timers) {handler : LdHandler}
    (htid : port.tid handler = 0) :
    LdLinked (before ++ port.setTid (timers.lastTimeoutId + 1) handler :: after)
      (timers.add handler port.address) := by
  refine ⟨?_, ?_, ?_, ?_, ?_⟩
  · simpa using h.addresses
  · rw [LdTimers.add, List.map_append, List.map_singleton, List.nodup_append]
    refine ⟨h.timeoutIds, List.nodup_singleton _, ?_⟩
    intro timeoutId hid fresh hfresh hsame
    obtain ⟨timer, htimer, rfl⟩ := List.mem_map.mp hid
    have hle := (h.range timer htimer).2
    obtain rfl : fresh = timers.lastTimeoutId + 1 := List.mem_singleton.mp hfresh
    omega
  · intro timer htimer
    rw [LdTimers.add, List.mem_append, List.mem_singleton] at htimer
    rcases htimer with hold | rfl
    · have hrange := h.range timer hold
      exact ⟨hrange.1, Nat.le_succ_of_le hrange.2⟩
    · exact ⟨Nat.succ_pos _, Nat.le_refl _⟩
  · intro timer htimer
    rw [LdTimers.add, List.mem_append, List.mem_singleton] at htimer
    rcases htimer with hold | rfl
    · obtain ⟨owner, howner, hat, hown⟩ := h.owner timer hold
      rcases mem_middle.mp howner with rfl | hother
      · have hhandler : timer.handler ≠ handler := by
          rintro rfl
          have hpos := (h.range timer hold).1
          omega
        exact ⟨_, mem_middle.mpr (.inl rfl), by simpa using hat,
          (LdPort.tid_setTid_of_ne hhandler).trans hown⟩
      · exact ⟨owner, mem_middle.mpr (.inr hother), hat, hown⟩
    · exact ⟨_, mem_middle.mpr (.inl rfl), by simp, by simp⟩
  · intro holder hholder other hne
    rw [LdTimers.add, List.mem_append, List.mem_singleton]
    rcases mem_middle.mp hholder with rfl | hother
    · by_cases hhandler : other = handler
      · subst hhandler
        exact .inr (by simp)
      · rw [LdPort.tid_setTid_of_ne hhandler] at hne ⊢
        refine .inl ?_
        simpa using h.held port (mem_middle.mpr (.inl rfl)) other hne
    · exact .inl (h.held holder (mem_middle.mpr (.inr hother)) other hne)

/-- A new entry has no timers. -/
theorem insert (h : LdLinked ports timers) (hfresh : ∀ other ∈ ports, other.address ≠ port.address)
    (htid : ∀ handler, port.tid handler = 0) : LdLinked (ports ++ [port]) timers := by
  refine ⟨?_, h.timeoutIds, h.range, ?_, ?_⟩
  · rw [List.map_append, List.map_singleton, List.nodup_append]
    refine ⟨h.addresses, List.nodup_singleton _, ?_⟩
    intro address haddress other hother hsame
    obtain ⟨old, hold, rfl⟩ := List.mem_map.mp haddress
    exact hfresh old hold (hsame.trans (List.mem_singleton.mp hother))
  · intro timer htimer
    obtain ⟨owner, howner, hown⟩ := h.owner timer htimer
    exact ⟨owner, List.mem_append_left _ howner, hown⟩
  · intro holder hholder handler hne
    rw [List.mem_append, List.mem_singleton] at hholder
    rcases hholder with hold | rfl
    · exact h.held holder hold handler hne
    · exact absurd (htid handler) hne

/-- An entry without timers can be freed. -/
theorem free (h : LdLinked (before ++ port :: after) timers)
    (htid : ∀ handler, port.tid handler = 0) : LdLinked (before ++ after) timers := by
  refine ⟨?_, h.timeoutIds, h.range, ?_, ?_⟩
  · have hnodup := h.addresses
    rw [List.map_append, List.map_cons, List.nodup_middle, List.nodup_cons] at hnodup
    rw [List.map_append]
    exact hnodup.2
  · intro timer htimer
    obtain ⟨owner, howner, hat, hown⟩ := h.owner timer htimer
    rcases mem_middle.mp howner with rfl | hother
    · have hpos := (h.range timer htimer).1
      rw [htid] at hown
      omega
    · exact ⟨owner, hother, hat, hown⟩
  · exact fun holder hholder => h.held holder (mem_middle.mpr (.inr hholder))

end LdLinked

end FalconGpon.Omci
