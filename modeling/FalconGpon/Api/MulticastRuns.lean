/-
# Group bookkeeping of the multicast engine

The ports in the multicast table of the device are to be those of the entries in the lists. A
join looks its group up by the address alone, so a second VLAN of a group gets into the table
but not into the list; a leave on a port without a subscriber removes the entries of all such
ports from the list, but only its own port from the table. `bookkeeping_kept` says that the
tables agree in all runs that keep away from these cases.
-/

import Mathlib.Data.Fintype.Basic
import FalconGpon.Api.Multicast

namespace FalconGpon.Api

open FalconGpon.Lib

namespace McEngine

def ports (engine : McEngine) (s : Option SubscrIdx) : List McPort :=
  (engine.groupsList s).entries.map AddedGroup.port

/-- The books agree with the device. -/
structure Kept (engine : McEngine) : Prop where
  listed : ∀ port ∈ engine.device, ∃ s, port ∈ engine.ports s
  programmed : ∀ s, ∀ port ∈ engine.ports s, port ∈ engine.device
  distinct : ∀ s, ((engine.groupsList s).entries.map fun added =>
    (added.group.gAddr, added.group.vlan, added.lanPort)).Nodup
  count : ∀ s, (engine.groupsList s).entriesNum = (engine.groupsList s).entries.length
  limit : ∀ s, (engine.subscr s).maxSimultaneousGroups ≠ 0 →
    (engine.groupsList (some s)).entries.length ≤ (engine.subscr s).maxSimultaneousGroups.toNat

instance (engine : McEngine) : Decidable engine.Kept :=
  decidable_of_iff
    ((∀ port ∈ engine.device, ∃ s, port ∈ engine.ports s) ∧
      (∀ s, ∀ port ∈ engine.ports s, port ∈ engine.device) ∧
      (∀ s, ((engine.groupsList s).entries.map fun added =>
        (added.group.gAddr, added.group.vlan, added.lanPort)).Nodup) ∧
      (∀ s, (engine.groupsList s).entriesNum = (engine.groupsList s).entries.length) ∧
      ∀ s, (engine.subscr s).maxSimultaneousGroups ≠ 0 →
        (engine.groupsList (some s)).entries.length ≤
          (engine.subscr s).maxSimultaneousGroups.toNat)
    ⟨fun ⟨h₁, h₂, h₃, h₄, h₅⟩ => ⟨h₁, h₂, h₃, h₄, h₅⟩,
      fun h => ⟨h.listed, h.programmed, h.distinct, h.count, h.limit⟩⟩

/-! ## When an event keeps the books -/

/-- The change of a group for a port and a VLAN, by the answer of the device. An error changes
nothing. Otherwise a join of a group in the list is for the port of its entry, or is not made;
any other join is made, and there is memory for its entry; and a leave is for the port of the
entry of the group exactly if it is for its VLAN. -/
def ChangeGuard (engine : McEngine) (env : McEnv) (lanPort : BitVec 8) (s : Option SubscrIdx)
    (rec : McGroup) (add : Bool) : Prop :=
  ∀ fid ∈ if add then env.fidGet.or env.fidAdd else env.fidGet,
    let port : McPort := ⟨lanPort, fid, rec.gAddr⟩
    env.port port ≠ .error →
      if add then
        if rec.gAddr ∈ (engine.ports s).map McPort.ip then
          env.port port = .success → port ∈ engine.ports s
        else env.port port = .success ∧ env.memory = true
      else ∀ added ∈ (engine.groupsList s).entries, added.group.gAddr = rec.gAddr →
        (added.group.vlan = rec.vlan ↔ added.port = port)

def RemovalGuard (engine : McEngine) (env : McEnv) (s : Option SubscrIdx) : Prop :=
  ∀ port ∈ engine.ports s, env.port port ≠ .error

/-- A join that is admitted. -/
def JoinGuard (engine : McEngine) (env : McEnv) (lanPort : BitVec 8) (s p : Option SubscrIdx)
    (rec : McGroup) : Prop :=
  match engine.admission s p rec with
  | .admitted _ => engine.ChangeGuard env lanPort s rec true
  | _ => True

/-- A record of a v2 report or leave. -/
def V2Guard (lanPort : BitVec 8) (s p : Option SubscrIdx) (env : McEnv) (rec : McGroup)
    (engine : McEngine) : Prop :=
  match rec.gState with
  | .na => True
  | .excludes => engine.JoinGuard env lanPort s p rec
  | .includes => engine.ChangeGuard env lanPort s rec false

/-- A record of a v3 report. -/
def V3Guard (lanPort : BitVec 8) (s p : Option SubscrIdx) (env : McEnv) (rec : McGroup)
    (engine : McEngine) : Prop :=
  match groupAction rec ((engine.groupsList s).entries.find? (·.group.Matches rec)) with
  | .gaddrAdd => engine.JoinGuard env lanPort s p rec
  | .gaddrRem => engine.ChangeGuard env lanPort s rec false
  | .saddrRem => engine.RemovalGuard env s
  | _ => True

/-- Every record that is handled meets a guard. -/
def RecordsGuard (record : McEnv → McGroup → McEngine → Option (RecordEnd × McEngine))
    (guard : McEnv → McGroup → McEngine → Prop) : List (McEnv × McGroup) → McEngine → Prop
  | [], _ => True
  | (env, rec) :: rest, engine =>
      guard env rec engine ∧
        match record env rec engine with
        | some (.skipped, engine) => RecordsGuard record guard rest engine
        | some (.acted, engine) => RecordsGuard record guard rest engine
        | _ => True

/-- An event keeps the books if each of its records does. The configuration of a subscriber does
if the device refuses no removal of its entries, and no entry of the LAN port that it gets is in
the list of the ports without a subscriber or of a later subscriber. -/
def Guard (engine : McEngine) : McEvent → Prop
  | .igmpV2 lanPort records =>
      let s := engine.subscrIdxGet lanPort
      let p := engine.profileIdxGet s
      RecordsGuard (fun env rec engine => engine.igmpV2Record env lanPort s p rec)
        (V2Guard lanPort s p) records engine
  | .igmpV3 lanPort records =>
      let s := engine.subscrIdxGet lanPort
      let p := engine.profileIdxGet s
      RecordsGuard (fun env rec engine => engine.igmpV3Record env lanPort s p rec)
        (V3Guard lanPort s p) records engine
  | .subscr env index subscr => ∀ s : SubscrIdx, s.val = index →
      ((engine.subscr s).valid = true → engine.RemovalGuard env (some s)) ∧
        (subscr.valid = true → ∀ t, t ≠ some s → ∀ port ∈ engine.ports t,
          port.lanPort = subscr.lanIdx → ∃ r, t = some r ∧ r < s)
  | .profile _ _ => True

/-! ## The invariant -/

/-- Besides the agreement of the books, each entry is in the list of its port, a list has a group
once, and the lock is free. -/
structure Sound (engine : McEngine) : Prop where
  device : ∀ port, port ∈ engine.device ↔ ∃ s, port ∈ engine.ports s
  owner : ∀ s, ∀ port ∈ engine.ports s, engine.subscrIdxGet port.lanPort = s
  group : ∀ s, ((engine.ports s).map McPort.ip).Nodup
  count : ∀ s, (engine.groupsList s).entriesNum = (engine.ports s).length
  limit : ∀ s, (engine.subscr s).maxSimultaneousGroups ≠ 0 →
    (engine.ports (some s)).length ≤ (engine.subscr s).maxSimultaneousGroups.toNat
  unlocked : engine.locked = false

variable {engine : McEngine}

@[simp] theorem length_ports (engine : McEngine) (s : Option SubscrIdx) :
    (engine.ports s).length = (engine.groupsList s).entries.length :=
  List.length_map ..

theorem Sound.kept (h : engine.Sound) : engine.Kept where
  listed := fun port hport => (h.device port).mp hport
  programmed := fun s port hport => (h.device port).mpr ⟨s, hport⟩
  distinct := fun s => by
    have hgroup : (((engine.groupsList s).entries.map fun added =>
        (added.group.gAddr, added.group.vlan, added.lanPort)).map Prod.fst).Nodup := by
      have hips := h.group s
      rw [ports, List.map_map] at hips
      rwa [List.map_map]
    exact hgroup.of_map
  count := fun s => by rw [h.count, length_ports]
  limit := fun s hmax => by simpa using h.limit s hmax

/-! ## Changes of a list -/

section Lists

variable (device : Finset McPort) (s t : Option SubscrIdx) (entries : List AddedGroup) (count : Nat)

@[simp] theorem ports_setEntries_self :
    (engine.setEntries s entries count).ports s = entries.map AddedGroup.port := by
  simp [ports, setEntries]

@[simp] theorem ports_setEntries_of_ne (hne : t ≠ s) :
    (engine.setEntries s entries count).ports t = engine.ports t := by
  simp [ports, setEntries, hne]

end Lists

variable {env : McEnv} {s : Option SubscrIdx} {lanPort : BitVec 8} {rec : McGroup} {ret : McReturn}
  {entries : List AddedGroup}

/-- A list and the device change such that they agree again. -/
theorem Sound.write (h : engine.Sound) {device : Finset McPort} (hdevice : ∀ port, port ∈ device ↔
      port ∈ entries.map AddedGroup.port ∨ ∃ t, t ≠ s ∧ port ∈ engine.ports t)
    (howner : ∀ port ∈ entries.map AddedGroup.port, engine.subscrIdxGet port.lanPort = s)
    (hgroup : ((entries.map AddedGroup.port).map McPort.ip).Nodup)
    (hlimit : ∀ r, s = some r → (engine.subscr r).maxSimultaneousGroups ≠ 0 →
      entries.length ≤ (engine.subscr r).maxSimultaneousGroups.toNat) :
    (({ engine with device } : McEngine).setEntries s entries entries.length).Sound where
  device := fun port => by
    refine (hdevice port).trans ⟨?_, ?_⟩
    · rintro (hself | ⟨t, hne, hother⟩)
      · exact ⟨s, by rwa [ports_setEntries_self]⟩
      · exact ⟨t, by rwa [ports_setEntries_of_ne _ _ _ _ hne]⟩
    · rintro ⟨t, hport⟩
      by_cases hts : t = s
      · subst hts
        rw [ports_setEntries_self] at hport
        exact .inl hport
      · rw [ports_setEntries_of_ne _ _ _ _ hts] at hport
        exact .inr ⟨t, hts, hport⟩
  owner := fun t port hport => by
    by_cases hts : t = s
    · subst hts
      rw [ports_setEntries_self] at hport
      exact howner port hport
    · rw [ports_setEntries_of_ne _ _ _ _ hts] at hport
      exact h.owner t port hport
  group := fun t => by
    by_cases hts : t = s
    · subst hts
      rwa [ports_setEntries_self]
    · rw [ports_setEntries_of_ne _ _ _ _ hts]
      exact h.group t
  count := fun t => by
    by_cases hts : t = s
    · subst hts
      simp [setEntries]
    · rw [ports_setEntries_of_ne _ _ _ _ hts]
      simpa [setEntries, hts] using h.count t
  limit := fun r hmax => by
    by_cases hrs : some r = s
    · subst hrs
      rw [ports_setEntries_self, List.length_map]
      exact hlimit r rfl hmax
    · rw [ports_setEntries_of_ne _ _ _ _ hrs]
      exact h.limit r hmax
  unlocked := h.unlocked

/-- Entries change, but not what the device has for them. -/
theorem Sound.replace (h : engine.Sound) (hports : entries.map AddedGroup.port = engine.ports s) :
    (engine.setEntries s entries (engine.groupsList s).entriesNum).Sound := by
  have hlength : (engine.groupsList s).entriesNum = entries.length := by
    rw [h.count, ← hports, List.length_map]
  have hdevice : ∀ port, port ∈ engine.device ↔
      port ∈ entries.map AddedGroup.port ∨ ∃ t, t ≠ s ∧ port ∈ engine.ports t := by
    intro port
    rw [hports, h.device]
    constructor
    · rintro ⟨t, hport⟩
      by_cases hts : t = s
      · exact .inl (hts ▸ hport)
      · exact .inr ⟨t, hts, hport⟩
    · rintro (hport | ⟨t, -, hport⟩)
      · exact ⟨s, hport⟩
      · exact ⟨t, hport⟩
  have hlimit : ∀ r, s = some r → (engine.subscr r).maxSimultaneousGroups ≠ 0 →
      entries.length ≤ (engine.subscr r).maxSimultaneousGroups.toNat := by
    rintro r rfl hmax
    rw [← hlength, h.count]
    exact h.limit r hmax
  rw [hlength]
  exact h.write hdevice (by rw [hports]; exact h.owner s) (by rw [hports]; exact h.group s) hlimit

/-- A port and its entry are added to a list without the group. -/
theorem Sound.append (h : engine.Sound) {added : AddedGroup}
    (howner : engine.subscrIdxGet added.lanPort = s)
    (hnew : added.group.gAddr ∉ (engine.ports s).map McPort.ip)
    (hlimit : engine.isGroupsLimitReached s = false) :
    (({ engine with device := insert added.port engine.device } : McEngine).setEntries s
      ((engine.groupsList s).entries ++ [added])
      ((engine.groupsList s).entriesNum + 1)).Sound := by
  have hlength : (engine.groupsList s).entriesNum + 1 =
      ((engine.groupsList s).entries ++ [added]).length := by
    rw [h.count, length_ports, List.length_append, List.length_singleton]
  have hports : ((engine.groupsList s).entries ++ [added]).map AddedGroup.port =
      engine.ports s ++ [added.port] := by rw [List.map_append]; rfl
  rw [hlength]
  apply h.write
  · intro port
    rw [hports, Finset.mem_insert, h.device, List.mem_append, List.mem_singleton]
    constructor
    · rintro (hport | ⟨t, hport⟩)
      · exact .inl (.inr hport)
      · by_cases hts : t = s
        · exact .inl (.inl (hts ▸ hport))
        · exact .inr ⟨t, hts, hport⟩
    · rintro ((hport | hport) | ⟨t, -, hport⟩)
      · exact .inr ⟨s, hport⟩
      · exact .inl hport
      · exact .inr ⟨t, hport⟩
  · intro port hport
    rw [hports, List.mem_append, List.mem_singleton] at hport
    rcases hport with hport | rfl
    · exact h.owner s port hport
    · exact howner
  · rw [hports, List.map_append, List.map_singleton, List.nodup_append]
    refine ⟨h.group s, List.nodup_singleton _, fun ip hip other hother => ?_⟩
    rw [List.mem_singleton] at hother
    rintro rfl
    rw [hother] at hip
    exact hnew hip
  · rintro r rfl hmax
    have hcount := h.count (some r)
    simp only [isGroupsLimitReached, Bool.and_eq_false_iff, decide_eq_false_iff_not,
      ne_eq] at hlimit
    have hne : (engine.subscr r).maxSimultaneousGroups.toNat ≠ 0 :=
      fun hzero => hmax (BitVec.eq_of_toNat_eq hzero)
    rw [← hlength]
    grind

/-- A port and its entries are removed from a list. -/
theorem Sound.remove (h : engine.Sound) {port : McPort}
    (howner : engine.subscrIdxGet port.lanPort = s)
    (hsub : entries.Sublist (engine.groupsList s).entries)
    (hports : ∀ other, other ∈ entries.map AddedGroup.port ↔
      other ∈ engine.ports s ∧ other ≠ port) :
    (({ engine with device := engine.device.erase port } : McEngine).setEntries s entries
      entries.length).Sound := by
  have hsubPorts : (entries.map AddedGroup.port).Sublist (engine.ports s) := hsub.map _
  apply h.write
  · intro other
    rw [Finset.mem_erase, h.device, hports]
    constructor
    · rintro ⟨hne, t, hother⟩
      by_cases hts : t = s
      · exact .inl ⟨hts ▸ hother, hne⟩
      · exact .inr ⟨t, hts, hother⟩
    · rintro (⟨hother, hne⟩ | ⟨t, hts, hother⟩)
      · exact ⟨hne, s, hother⟩
      · refine ⟨?_, t, hother⟩
        rintro rfl
        exact hts ((h.owner t other hother).symm.trans howner)
  · exact fun other hother => h.owner s other (hsubPorts.subset hother)
  · exact (h.group s).sublist (hsubPorts.map _)
  · rintro r rfl hmax
    exact hsub.length_le.trans (by simpa using h.limit r hmax)

/-- What the handling of a record keeps. -/
structure Keeps (engine after : McEngine) : Prop where
  sound : after.Sound
  subscr : after.subscr = engine.subscr

variable {after : McEngine}

theorem Keeps.subscrIdxGet (h : engine.Keeps after) (lanPort : BitVec 8) :
    after.subscrIdxGet lanPort = engine.subscrIdxGet lanPort := by
  rw [McEngine.subscrIdxGet, McEngine.subscrIdxGet, h.subscr]

theorem Sound.keeps (h : engine.Sound) : engine.Keeps engine := ⟨h, rfl⟩

/-! ## Joins and leaves -/

@[simp] theorem map_port_touchFirst (gAddr : BitVec 32) (now : Nat) (entries : List AddedGroup) :
    (touchFirst gAddr now entries).map AddedGroup.port = entries.map AddedGroup.port := by
  induction entries with
  | nil => rfl
  | cons added rest ih =>
      rw [touchFirst]
      split
      · rfl
      · rw [List.map_cons, List.map_cons, ih]

theorem mem_ips_iff (gAddr : BitVec 32) (s : Option SubscrIdx) :
    gAddr ∈ (engine.ports s).map McPort.ip ↔
      (engine.groupsList s).entries.any (·.group.gAddr = gAddr) = true := by
  simp [ports, AddedGroup.port]

/-! What the device answers decides what becomes of its table. -/

theorem shortFwdPortCtrl_error {add : Bool} {port : McPort} (hanswer : env.port port = .error) :
    engine.shortFwdPortCtrl env add port = (.error, engine) := by
  cases add <;> simp [shortFwdPortCtrl, hanswer]

theorem shortFwdPortCtrl_remove {port : McPort} (hanswer : env.port port ≠ .error) :
    engine.shortFwdPortCtrl env false port =
      (env.port port, { engine with device := engine.device.erase port }) := by
  cases hcase : env.port port with
  | error => exact absurd hcase hanswer
  | success => simp [shortFwdPortCtrl, hcase]
  | notAvailable => simp [shortFwdPortCtrl, hcase]

/-- A join keeps the books. -/
theorem Sound.groupEntryAdd (h : engine.Sound)
    (added : AddedGroup) (howner : engine.subscrIdxGet added.lanPort = s)
    (hlimit : engine.isGroupsLimitReached s = false) (hguard : env.port added.port ≠ .error →
      if added.group.gAddr ∈ (engine.ports s).map McPort.ip then
        env.port added.port = .success → added.port ∈ engine.ports s
      else env.port added.port = .success ∧ env.memory = true)
    (hadd : engine.groupEntryAdd env s added = some (ret, after)) : engine.Keeps after := by
  have hunlocked : ¬engine.locked = true := by simp [h.unlocked]
  have htouched := h.replace (map_port_touchFirst added.group.gAddr added.lastUpdate
    (engine.groupsList s).entries)
  rw [McEngine.groupEntryAdd] at hadd
  cases hanswer : env.port added.port with
  | error =>
      rw [shortFwdPortCtrl_error hanswer] at hadd
      simp only [Option.some.injEq, Prod.mk.injEq] at hadd
      exact hadd.2 ▸ h.keeps
  | success =>
      have hcase := hguard (by simp [hanswer])
      have hctrl : engine.shortFwdPortCtrl env true added.port =
          (.success, { engine with device := insert added.port engine.device }) := by
        simp [shortFwdPortCtrl, hanswer]
      rw [hctrl] at hadd
      by_cases hold : added.group.gAddr ∈ (engine.ports s).map McPort.ip
      · rw [if_pos hold] at hcase
        have hmem : added.port ∈ engine.device := (h.device _).mpr ⟨s, hcase hanswer⟩
        have hany := (mem_ips_iff _ _).mp hold
        simp only [Finset.insert_eq_of_mem hmem, if_neg hunlocked, if_pos hany,
          Option.some.injEq, Prod.mk.injEq] at hadd
        exact hadd.2 ▸ ⟨htouched, rfl⟩
      · rw [if_neg hold] at hcase
        have hany := mt (mem_ips_iff _ _).mpr hold
        simp only [if_neg hunlocked, if_neg hany, if_pos hcase.2,
          Option.some.injEq, Prod.mk.injEq] at hadd
        exact hadd.2 ▸ ⟨h.append howner hold hlimit, rfl⟩
  | notAvailable =>
      have hcase := hguard (by simp [hanswer])
      have hctrl : engine.shortFwdPortCtrl env true added.port = (.notAvailable, engine) := by
        simp [shortFwdPortCtrl, hanswer]
      rw [hctrl] at hadd
      by_cases hold : added.group.gAddr ∈ (engine.ports s).map McPort.ip
      · have hany := (mem_ips_iff _ _).mp hold
        simp only [if_neg hunlocked, if_pos hany, Option.some.injEq, Prod.mk.injEq] at hadd
        exact hadd.2 ▸ ⟨htouched, rfl⟩
      · rw [if_neg hold, hanswer] at hcase
        exact absurd hcase.1 (by decide)

/-- A leave keeps the books. -/
theorem Sound.groupEntryRem (h : engine.Sound)
    (added : AddedGroup) (howner : engine.subscrIdxGet added.lanPort = s)
    (hguard : env.port added.port ≠ .error →
      ∀ old ∈ (engine.groupsList s).entries, old.group.gAddr = added.group.gAddr →
        (old.group.vlan = added.group.vlan ↔ old.port = added.port)) {ret : McReturn}
    (hrem : engine.groupEntryRem env s added = some (ret, after)) : engine.Keeps after := by
  let kept := (engine.groupsList s).entries.filter fun old => ¬old.group.Matches added.group
  have hkept : kept.Sublist (engine.groupsList s).entries := List.filter_sublist
  -- the removal is the same whether the device had the port or not
  have hremoved (hdevice : env.port added.port ≠ .error) : engine.Keeps
      (({ engine with device := engine.device.erase added.port } : McEngine).setEntries s kept
        ((engine.groupsList s).entriesNum -
          ((engine.groupsList s).entries.length - kept.length))) := by
    have hmatches : ∀ old ∈ (engine.groupsList s).entries,
        old.group.Matches added.group ↔ old.port = added.port := by
      intro old hold
      constructor
      · exact fun ⟨hgroup, hvlan⟩ => (hguard hdevice old hold hgroup).mp hvlan
      · intro hport
        have hgroup : old.group.gAddr = added.group.gAddr := congrArg McPort.ip hport
        exact ⟨hgroup, (hguard hdevice old hold hgroup).mpr hport⟩
    have hports : ∀ other, other ∈ kept.map AddedGroup.port ↔
        other ∈ engine.ports s ∧ other ≠ added.port := by
      intro other
      simp only [kept, ports, List.mem_map, List.mem_filter, decide_eq_true_eq]
      constructor
      · rintro ⟨old, ⟨hold, hnot⟩, rfl⟩
        exact ⟨⟨old, hold, rfl⟩, fun hport => hnot ((hmatches old hold).mpr hport)⟩
      · rintro ⟨⟨old, hold, rfl⟩, hne⟩
        exact ⟨old, ⟨hold, fun hmatch => hne ((hmatches old hold).mp hmatch)⟩, rfl⟩
    have hcount : (engine.groupsList s).entriesNum -
        ((engine.groupsList s).entries.length - kept.length) = kept.length := by
      have hle := hkept.length_le
      rw [h.count, length_ports]
      omega
    rw [hcount]
    exact ⟨h.remove howner hkept hports, rfl⟩
  have hunlocked : ¬engine.locked = true := by simp [h.unlocked]
  rw [McEngine.groupEntryRem] at hrem
  by_cases hanswer : env.port added.port = .error
  · rw [shortFwdPortCtrl_error hanswer] at hrem
    simp only [Option.some.injEq, Prod.mk.injEq] at hrem
    exact hrem.2 ▸ h.keeps
  · rw [shortFwdPortCtrl_remove hanswer] at hrem
    have hkeeps := hremoved hanswer
    cases hcase : env.port added.port with
    | error => exact absurd hcase hanswer
    | success | notAvailable =>
        simp only [hcase, if_neg hunlocked, Option.some.injEq, Prod.mk.injEq] at hrem
        exact hrem.2 ▸ hkeeps

/-- The port of one entry and the entry are removed from a list. -/
theorem Sound.removeEntry (h : engine.Sound) {done rest : List AddedGroup}
    {old : AddedGroup} (hentries : (engine.groupsList s).entries = done ++ old :: rest) :
    (({ engine with device := engine.device.erase old.port } : McEngine).setEntries s
      (done ++ rest) ((engine.groupsList s).entriesNum - 1)).Sound := by
  have hports : engine.ports s =
      done.map AddedGroup.port ++ old.port :: rest.map AddedGroup.port := by
    rw [ports, hentries, List.map_append, List.map_cons]
  have hmem : old.port ∈ engine.ports s := by simp [hports]
  have hnodup : (old.port :: (done ++ rest).map AddedGroup.port).Nodup := by
    have hself := (h.group s).of_map
    rw [hports] at hself
    rw [List.map_append]
    exact List.nodup_middle.mp hself
  have hcount : (engine.groupsList s).entriesNum - 1 = (done ++ rest).length := by
    rw [h.count, length_ports, hentries]
    simp
  rw [hcount]
  apply h.remove (h.owner s _ hmem)
  · rw [hentries]
    exact (List.sublist_cons_self old rest).append_left done
  · intro other
    rw [hports, List.map_append]
    constructor
    · intro hother
      refine ⟨by simp only [List.mem_append, List.mem_cons] at hother ⊢; tauto, ?_⟩
      rintro rfl
      exact (List.nodup_cons.mp hnodup).1 (by rwa [List.map_append])
    · rintro ⟨hother, hne⟩
      simp only [List.mem_append, List.mem_cons] at hother ⊢
      tauto

/-! ## Source addresses -/

theorem Sound.groupEntrySrcAdd (h : engine.Sound) {group : McGroup}
    (hadd : engine.groupEntrySrcAdd s group = some (ret, after)) : engine.Keeps after := by
  have hunlocked : ¬engine.locked = true := by simp [h.unlocked]
  rw [McEngine.groupEntrySrcAdd] at hadd
  simp only [if_neg hunlocked, Option.some.injEq, Prod.mk.injEq] at hadd
  refine hadd.2 ▸ ⟨h.replace ?_, rfl⟩
  rw [List.map_map, ports]
  apply List.map_congr_left
  intro old _
  rw [Function.comp_apply]
  split <;> rfl

/-- The removal of sources keeps the books at each entry. -/
theorem Sound.groupEntrySrcRemLoop {group : McGroup}
    {rest : List AddedGroup} : ∀ {engine : McEngine} {done : List AddedGroup} {ret : McReturn},
      engine.Sound → (engine.groupsList s).entries = done ++ rest → engine.RemovalGuard env s →
      ∀ {end' : McReturn} {after : McEngine},
        McEngine.groupEntrySrcRemLoop env s group done rest ret engine = some (end', after) →
        engine.Keeps after := by
  induction rest with
  | nil =>
      intro engine done ret h _ _ end' after hrem
      simp only [McEngine.groupEntrySrcRemLoop, Option.some.injEq, Prod.mk.injEq] at hrem
      exact hrem.2 ▸ h.keeps
  | cons old rest ih =>
      intro engine done ret h hentries hguard end' after hrem
      rw [McEngine.groupEntrySrcRemLoop] at hrem
      by_cases hmatch : old.group.Matches group
      · simp only [if_pos hmatch] at hrem
        have hold : old.port ∈ engine.ports s := by simp [ports, hentries]
        split at hrem
        next sources _ =>
          -- the entry keeps a source
          have hports : (done ++ { old with group := { old.group with
              sAddrListState := group.sAddrListState, sAddrList := sources } } :: rest).map
                AddedGroup.port = engine.ports s := by
            simp [ports, hentries, AddedGroup.port]
          have hsound := h.replace hports
          have hkeeps := ih hsound (by simp [setEntries])
            (fun port hport => hguard port (by rwa [ports_setEntries_self, hports] at hport)) hrem
          exact ⟨hkeeps.sound, hkeeps.subscr⟩
        next i sources _ =>
          -- the entry goes with its last source
          rw [shortFwdPortCtrl_remove (hguard _ hold)] at hrem
          have hsound := h.removeEntry hentries
          have hrest : ∀ port ∈ (({ engine with device := engine.device.erase old.port } :
              McEngine).setEntries s (done ++ rest)
                ((engine.groupsList s).entriesNum - 1)).ports s, env.port port ≠ .error := by
            intro port hport
            apply hguard port
            rw [ports_setEntries_self] at hport
            simp only [ports, hentries, List.map_append, List.map_cons, List.mem_append,
              List.mem_cons] at hport ⊢
            tauto
          split at hrem
          next hanswer =>
            exact absurd (congrArg Prod.fst hanswer) (hguard _ hold)
          next answer removed _ hanswer =>
            obtain ⟨rfl, rfl⟩ := Prod.mk.inj hanswer
            split at hrem
            · exact absurd hrem (by simp)
            · have hkeeps := ih hsound (by simp [setEntries]) hrest hrem
              exact ⟨hkeeps.sound, hkeeps.subscr⟩
      · simp only [if_neg hmatch] at hrem
        exact ih h (by simp [hentries]) hguard hrem

theorem Sound.groupEntrySrcRem (h : engine.Sound)
    {group : McGroup} (hguard : engine.RemovalGuard env s)
    (hrem : engine.groupEntrySrcRem env s group = some (ret, after)) : engine.Keeps after := by
  have hunlocked : ¬engine.locked = true := by simp [h.unlocked]
  rw [McEngine.groupEntrySrcRem, if_neg hunlocked] at hrem
  exact Sound.groupEntrySrcRemLoop h rfl hguard hrem

/-! ## Records -/

/-- The change of a group keeps the books. -/
theorem Sound.groupEntryChange (h : engine.Sound) {add : Bool} {bandwidth : BitVec 32}
    (howner : engine.subscrIdxGet lanPort = s)
    (hlimit : add = true → engine.isGroupsLimitReached s = false)
    (hguard : engine.ChangeGuard env lanPort s rec add) {done : RecordEnd}
    (hchange : engine.groupEntryChange env lanPort s rec add bandwidth = some (done, after)) :
    engine.Keeps after := by
  rw [McEngine.groupEntryChange] at hchange
  cases hfid : (if add = true then env.fidGet.or env.fidAdd else env.fidGet) with
  | none =>
      simp only [hfid, Option.some.injEq, Prod.mk.injEq] at hchange
      exact hchange.2 ▸ h.keeps
  | some fid =>
      have hcase := hguard fid hfid
      cases hclock : env.clock with
      | none =>
          simp only [hfid, hclock, Option.some.injEq, Prod.mk.injEq] at hchange
          exact hchange.2 ▸ h.keeps
      | some now =>
          simp only [hfid, hclock, Option.map_eq_some_iff, Prod.exists, Prod.mk.injEq] at hchange
          obtain ⟨ret, changed, hdone, -, rfl⟩ := hchange
          let added : AddedGroup := ⟨rec, lanPort, fid, false, now, now, bandwidth⟩
          cases add with
          | true => exact h.groupEntryAdd added howner (hlimit rfl) hcase hdone
          | false => exact h.groupEntryRem added howner hcase hdone

theorem isGroupsLimitReached_of_admission {s p : Option SubscrIdx}
    {bandwidth : BitVec 32} (hadmitted : engine.admission s p rec = .admitted bandwidth) :
    engine.isGroupsLimitReached s = false := by
  rw [admission] at hadmitted
  cases hmatch : engine.profileDaclMatch p rec with
  | none => simp [hmatch] at hadmitted
  | some found =>
      by_cases hreached : engine.isGroupsLimitReached s = true
      · simp [hmatch, hreached] at hadmitted
      · simpa using hreached

theorem Sound.join (h : engine.Sound) {s p : Option SubscrIdx} {bandwidth : BitVec 32}
    (howner : engine.subscrIdxGet lanPort = s)
    (hadmitted : engine.admission s p rec = .admitted bandwidth)
    (hguard : engine.JoinGuard env lanPort s p rec) {done : RecordEnd}
    (hjoin : engine.groupEntryChange env lanPort s rec true bandwidth = some (done, after)) :
    engine.Keeps after := by
  rw [JoinGuard, hadmitted] at hguard
  exact h.groupEntryChange howner (fun _ => isGroupsLimitReached_of_admission hadmitted) hguard
    hjoin

/-- A record of a v2 report or leave keeps the books. -/
theorem Sound.igmpV2Record (h : engine.Sound)
    {s p : Option SubscrIdx} (howner : engine.subscrIdxGet lanPort = s)
    (hguard : V2Guard lanPort s p env rec engine) {done : RecordEnd}
    (hrec : engine.igmpV2Record env lanPort s p rec = some (done, after)) : engine.Keeps after := by
  rw [McEngine.igmpV2Record] at hrec
  rw [V2Guard] at hguard
  cases hstate : rec.gState with
  | na =>
      simp only [hstate, Option.some.injEq, Prod.mk.injEq] at hrec
      exact hrec.2 ▸ h.keeps
  | includes =>
      simp only [hstate] at hrec hguard
      exact h.groupEntryChange howner (by simp) hguard hrec
  | excludes =>
      simp only [hstate] at hrec hguard
      cases hadmitted : engine.admission s p rec with
      | admitted bandwidth =>
          simp only [hadmitted] at hrec
          exact h.join howner hadmitted hguard hrec
      | denied | overBandwidth =>
          simp only [hadmitted, Option.some.injEq, Prod.mk.injEq] at hrec
          exact hrec.2 ▸ h.keeps

/-- A record of a v3 report keeps the books. -/
theorem Sound.igmpV3Record (h : engine.Sound)
    {s p : Option SubscrIdx} (howner : engine.subscrIdxGet lanPort = s)
    (hguard : V3Guard lanPort s p env rec engine) {done : RecordEnd}
    (hrec : engine.igmpV3Record env lanPort s p rec = some (done, after)) : engine.Keeps after := by
  have hunlocked : ¬engine.locked = true := by simp [h.unlocked]
  simp only [McEngine.igmpV3Record, groupEntryMatchFind, if_neg hunlocked, Option.bind_eq_bind,
    Option.bind_some] at hrec
  rw [V3Guard] at hguard
  cases haction : groupAction rec
      ((engine.groupsList s).entries.find? (·.group.Matches rec)) with
  | none =>
      simp only [haction, Option.some.injEq, Prod.mk.injEq] at hrec
      exact hrec.2 ▸ h.keeps
  | gaddrAdd =>
      simp only [haction] at hrec hguard
      cases hadmitted : engine.admission s p rec with
      | admitted bandwidth =>
          simp only [hadmitted] at hrec
          exact h.join howner hadmitted hguard hrec
      | denied | overBandwidth =>
          simp only [hadmitted, Option.some.injEq, Prod.mk.injEq] at hrec
          exact hrec.2 ▸ h.keeps
  | gaddrRem =>
      simp only [haction] at hrec hguard
      exact h.groupEntryChange howner (by simp) hguard hrec
  | saddrAdd =>
      simp only [haction, Option.map_eq_some_iff, Prod.exists, Prod.mk.injEq] at hrec
      obtain ⟨ret, changed, hdone, -, rfl⟩ := hrec
      exact h.groupEntrySrcAdd hdone
  | saddrRem =>
      simp only [haction, Option.map_eq_some_iff, Prod.exists, Prod.mk.injEq] at hrec hguard
      obtain ⟨ret, changed, hdone, -, rfl⟩ := hrec
      exact h.groupEntrySrcRem hguard hdone

/-- If each record keeps the books, a report does. -/
theorem Sound.actionGroupDo {record : McEnv → McGroup → McEngine → Option (RecordEnd × McEngine)}
    {guard : McEnv → McGroup → McEngine → Prop}
    (hrecord : ∀ {engine : McEngine} {env rec done after}, engine.Sound →
      engine.subscrIdxGet lanPort = s → guard env rec engine →
      record env rec engine = some (done, after) → engine.Keeps after)
    {records : List (McEnv × McGroup)} : ∀ {engine : McEngine} {drop : Bool}, engine.Sound →
      engine.subscrIdxGet lanPort = s → RecordsGuard record guard records engine →
      ∀ {reply : McReturn × Bool} {after : McEngine},
        McEngine.actionGroupDo record records drop engine = some (reply, after) →
        after.Sound := by
  induction records with
  | nil =>
      intro engine drop h _ _ reply after hdo
      simp only [McEngine.actionGroupDo, Option.some.injEq, Prod.mk.injEq] at hdo
      exact hdo.2 ▸ h
  | cons first rest ih =>
      intro engine drop h howner hguard reply after hdo
      obtain ⟨env, rec⟩ := first
      rw [RecordsGuard] at hguard
      rw [McEngine.actionGroupDo] at hdo
      cases hfirst : record env rec engine with
      | none => simp [hfirst] at hdo
      | some result =>
          obtain ⟨done, changed⟩ := result
          have hkeeps := hrecord h howner hguard.1 hfirst
          have howner' := (hkeeps.subscrIdxGet lanPort).trans howner
          cases done with
          | skipped | acted =>
              simp only [hfirst] at hdo hguard
              exact ih hkeeps.sound howner' hguard.2 hdo
          | «break» | failed ret =>
              simp only [hfirst, Option.some.injEq, Prod.mk.injEq] at hdo
              exact hdo.2 ▸ hkeeps.sound

/-! ## Subscribers -/

/-- The list of a subscriber is emptied. -/
theorem Sound.groupEntriesClearLoop : ∀ {engine : McEngine}, engine.Sound →
      (engine.groupsList s).entries = entries → engine.RemovalGuard env s →
      engine.Keeps (McEngine.groupEntriesClearLoop env s entries engine).2 ∧
        (McEngine.groupEntriesClearLoop env s entries engine).2.ports s = [] ∧
        ∀ t, t ≠ s →
    (McEngine.groupEntriesClearLoop env s entries engine).2.ports t = engine.ports t := by
  induction entries with
  | nil =>
      intro engine h hentries _
      exact ⟨h.keeps, by simp [McEngine.groupEntriesClearLoop, ports, hentries], fun _ _ => rfl⟩
  | cons added rest ih =>
      intro engine h hentries hguard
      have hanswer : env.port added.port ≠ .error := hguard _ (by simp [ports, hentries])
      have hfirst : (engine.groupsList s).entries = [] ++ added :: rest := hentries
      have hsound := h.removeEntry hfirst
      rw [List.nil_append] at hsound
      have hrest : ∀ port ∈ (({ engine with device := engine.device.erase added.port } :
          McEngine).setEntries s rest
            ((engine.groupsList s).entriesNum - 1)).ports s, env.port port ≠ .error := by
        intro port hport
        rw [ports_setEntries_self] at hport
        exact hguard port (by rw [ports, hentries]; exact List.mem_cons_of_mem _ hport)
      obtain ⟨hkeeps, hempty, hothers⟩ := ih hsound (by simp [setEntries]) hrest
      have hclear : McEngine.groupEntriesClearLoop env s (added :: rest) engine =
          McEngine.groupEntriesClearLoop env s rest
            (({ engine with device := engine.device.erase added.port } : McEngine).setEntries s rest
              ((engine.groupsList s).entriesNum - 1)) := by
        rw [McEngine.groupEntriesClearLoop, shortFwdPortCtrl_remove hanswer]
        cases hcase : env.port added.port with
        | error => exact absurd hcase hanswer
        | success => rfl
        | notAvailable => rfl
      rw [hclear]
      refine ⟨⟨hkeeps.sound, hkeeps.subscr⟩, hempty, fun t hne => ?_⟩
      rw [hothers t hne, ports_setEntries_of_ne _ _ _ _ hne]
      rfl

theorem subscrIdxGet_eq_some_iff {s : SubscrIdx} :
    engine.subscrIdxGet lanPort = some s ↔
      ((engine.subscr s).valid = true ∧ (engine.subscr s).lanIdx = lanPort) ∧
        ∀ r, r < s → (engine.subscr r).valid = true → (engine.subscr r).lanIdx ≠ lanPort := by
  rw [subscrIdxGet, Fin.find?_eq_some_iff]
  simp

theorem subscrIdxGet_eq_none_iff :
    engine.subscrIdxGet lanPort = none ↔
      ∀ r, (engine.subscr r).valid = true → (engine.subscr r).lanIdx ≠ lanPort := by
  rw [subscrIdxGet, Fin.find?_eq_none_iff]
  simp

/-- A subscriber without entries gets another configuration. -/
theorem Sound.configure (h : engine.Sound) {s : SubscrIdx} {subscr : McSubscr}
    (hempty : engine.ports (some s) = [])
    (hguard : subscr.valid = true → ∀ t, t ≠ some s → ∀ port ∈ engine.ports t,
      port.lanPort = subscr.lanIdx → ∃ r, t = some r ∧ r < s) :
    ({ engine with subscr := Function.update engine.subscr s subscr } : McEngine).Sound where
  device := h.device
  owner := fun t port hport => by
    have hne : t ≠ some s := by
      rintro rfl
      have hport' : port ∈ engine.ports (some s) := hport
      simp [hempty] at hport'
    have howner := h.owner t port hport
    cases t with
    | none =>
        rw [subscrIdxGet_eq_none_iff] at howner ⊢
        intro r hvalid
        by_cases hrs : r = s
        · subst hrs
          simp only [Function.update_self] at hvalid ⊢
          intro hlan
          obtain ⟨r, hr, -⟩ := hguard hvalid none hne port hport hlan.symm
          cases hr
        · simp only [Function.update_of_ne hrs] at hvalid ⊢
          exact howner r hvalid
    | some t =>
        have hts : t ≠ s := fun heq => hne (by rw [heq])
        rw [subscrIdxGet_eq_some_iff] at howner ⊢
        simp only [Function.update_of_ne hts]
        refine ⟨howner.1, fun r hlt hvalid => ?_⟩
        by_cases hrs : r = s
        · subst hrs
          simp only [Function.update_self] at hvalid ⊢
          intro hlan
          obtain ⟨q, hq, hqlt⟩ := hguard hvalid (some t) hne port hport hlan.symm
          cases hq
          exact absurd hlt (not_lt.mpr hqlt.le)
        · simp only [Function.update_of_ne hrs] at hvalid ⊢
          exact howner.2 r hlt hvalid
  group := h.group
  count := h.count
  limit := fun r hmax => by
    by_cases hrs : r = s
    · subst hrs
      have hports : ({ engine with subscr := Function.update engine.subscr r subscr } :
          McEngine).ports (some r) = [] := hempty
      simp [hports]
    · simp only [Function.update_of_ne hrs] at hmax ⊢
      exact h.limit r hmax
  unlocked := h.unlocked

/-- The configuration of a subscriber keeps the books. -/
theorem Sound.subscrUpdate (h : engine.Sound) {index : Nat} {subscr : McSubscr}
    (hguard : engine.Guard (.subscr env index subscr))
    (hupdate : engine.subscrUpdate env index subscr = some (ret, after)) : after.Sound := by
  have hunlocked : engine.locked = false := h.unlocked
  rw [McEngine.subscrUpdate] at hupdate
  split at hupdate
  next hindex =>
    let s : SubscrIdx := ⟨index, hindex⟩
    obtain ⟨hremoval, hothers⟩ := hguard s rfl
    split at hupdate
    · simp only [Option.some.injEq, Prod.mk.injEq] at hupdate
      exact hupdate.2 ▸ h
    · simp only [McEngine.groupEntriesClear, hunlocked, Bool.false_eq_true, if_false,
        Option.map_eq_some_iff] at hupdate
      obtain ⟨cleared, hcleared, hupdate⟩ := hupdate
      simp only [Prod.mk.injEq] at hupdate
      by_cases hvalid : (engine.subscr s).valid = true
      · obtain ⟨hkeeps, hempty, hsame⟩ := Sound.groupEntriesClearLoop h rfl (hremoval hvalid)
        have hconfigured := hkeeps.sound.configure hempty
          fun hnew t hne port hport => hothers hnew t hne port (by rwa [hsame t hne] at hport)
        rw [hkeeps.subscr] at hconfigured
        rw [if_pos hvalid] at hcleared
        obtain rfl := Option.some.inj hcleared
        exact hupdate.2 ▸ hconfigured
      · -- a subscriber that is not valid has no entries
        have hempty : engine.ports (some s) = [] := by
          apply List.eq_nil_iff_forall_not_mem.mpr
          intro port hport
          exact hvalid (subscrIdxGet_eq_some_iff.mp (h.owner (some s) port hport)).1.1
        rw [if_neg hvalid] at hcleared
        obtain rfl := Option.some.inj hcleared
        exact hupdate.2 ▸ h.configure hempty hothers
  next =>
    simp only [Option.some.injEq, Prod.mk.injEq] at hupdate
    exact hupdate.2 ▸ h

/-! ## Runs -/

/-- A guarded event keeps the books. -/
theorem Sound.step (h : engine.Sound) {event : McEvent} (hguard : engine.Guard event)
    (hstep : engine.step event = some after) : after.Sound := by
  cases event with
  | igmpV2 lanPort records =>
      simp only [McEngine.step, Option.map_eq_some_iff] at hstep
      obtain ⟨⟨reply, after⟩, hdo, rfl⟩ := hstep
      exact Sound.actionGroupDo (fun h howner hguard hrec => h.igmpV2Record howner hguard hrec)
        h rfl hguard hdo
  | igmpV3 lanPort records =>
      simp only [McEngine.step, Option.map_eq_some_iff] at hstep
      obtain ⟨⟨reply, after⟩, hdo, rfl⟩ := hstep
      exact Sound.actionGroupDo (fun h howner hguard hrec => h.igmpV3Record howner hguard hrec)
        h rfl hguard hdo
  | subscr env index subscr =>
      simp only [McEngine.step, Option.map_eq_some_iff, Prod.exists, exists_eq_right] at hstep
      obtain ⟨ret, hupdate⟩ := hstep
      exact h.subscrUpdate hguard hupdate
  | profile index profile =>
      simp only [McEngine.step, Option.some.injEq] at hstep
      exact hstep ▸ ⟨h.device, h.owner, h.group, h.count, h.limit, h.unlocked⟩

theorem init_sound : McEngine.init.Sound where
  device := by simp [init, ports]
  owner := by simp [init, ports]
  group := by simp [init, ports]
  count := by simp [init, ports]
  limit := by simp [init, ports]
  unlocked := rfl

/-- The books agree after every event of a run in which all events meet `Guard`. -/
theorem bookkeeping_kept (events : List McEvent)
    (hguard : Along McEngine.step (fun engine event _ => engine.Guard event) .init events) :
    Along McEngine.step (fun _ _ after => after.Kept) .init events := by
  have hstep : ∀ (before : McEngine) event after, before.Sound → before.Guard event →
      before.step event = some after → after.Kept ∧ after.Sound :=
    fun _ _ _ h hguard hstep => ⟨(h.step hguard hstep).kept, h.step hguard hstep⟩
  exact Along.of_guard hstep init_sound hguard

/-! ## Two runs -/

section Decide

variable (engine : McEngine) (env : McEnv) (lanPort : BitVec 8) (s p : Option SubscrIdx)
  (rec : McGroup)

instance (add : Bool) : Decidable (engine.ChangeGuard env lanPort s rec add) := by
  unfold ChangeGuard
  infer_instance

instance : Decidable (engine.RemovalGuard env s) := by
  unfold RemovalGuard
  infer_instance

instance : Decidable (engine.JoinGuard env lanPort s p rec) := by
  unfold JoinGuard
  split <;> infer_instance

instance : Decidable (V2Guard lanPort s p env rec engine) := by
  unfold V2Guard
  split <;> infer_instance

instance : Decidable (V3Guard lanPort s p env rec engine) := by
  unfold V3Guard
  split <;> infer_instance

instance RecordsGuard.decidable
    (record : McEnv → McGroup → McEngine → Option (RecordEnd × McEngine))
    (guard : McEnv → McGroup → McEngine → Prop)
    [∀ env rec engine, Decidable (guard env rec engine)] :
    ∀ records engine, Decidable (RecordsGuard record guard records engine)
  | [], _ => isTrue trivial
  | (env, rec) :: rest, engine => by
      have hrest := fun after => RecordsGuard.decidable record guard rest after
      rw [RecordsGuard]
      split <;> infer_instance

instance (event : McEvent) : Decidable (engine.Guard event) := by
  cases event <;> unfold Guard <;> infer_instance

end Decide

def sampleRecord (state : McGroupState) (vlan : BitVec 16) : McGroup :=
  { gAddr := 0xE0010101, gState := state, sAddrList := ⟨List.replicate 10 0, 0⟩,
    sAddrListState := .na, vlan }

/-- The device does what it is asked for; the flow id of a VLAN is its lower byte. -/
def sampleEnv (vlan : BitVec 16) : McEnv where
  fidGet := some (vlan.setWidth 8)
  fidAdd := none
  clock := some 0
  port := fun _ => .success
  memory := true
  behind := fun _ => 0

/-- A group is joined and left on a port without a subscriber, which then becomes that of a
subscriber with one group at most: the second join there is not admitted. -/
theorem bookkeeping_kept_sample :
    Along McEngine.step (fun _ _ after => after.Kept) .init
      [ .igmpV2 0 [(sampleEnv 1, sampleRecord .excludes 1)],
        .igmpV2 0 [(sampleEnv 1, sampleRecord .includes 1)],
        .subscr (sampleEnv 1) 0 ⟨true, 0, 0xFF, 1, 0, false⟩,
        .igmpV3 0 [(sampleEnv 2, sampleRecord .excludes 2),
          (sampleEnv 2, { sampleRecord .excludes 2 with gAddr := 0xE0010102 })] ] :=
  bookkeeping_kept _ (by decide +kernel)

/-- The group is joined in a second VLAN, which is not put into the list. -/
theorem bookkeeping_not_kept :
    ¬ Along McEngine.step (fun _ _ after => after.Kept) .init
      [ .igmpV2 0 [(sampleEnv 1, sampleRecord .excludes 1)],
        .igmpV2 0 [(sampleEnv 2, sampleRecord .excludes 2)] ] := by
  decide +kernel

end McEngine

end FalconGpon.Api
