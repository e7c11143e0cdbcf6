/-
# The extension headers of IPv6

`mcc_pkt_info_update` walks over the extension headers of an IPv6 packet to the header of MLD.
`LeadsTo` says where the chain of the headers goes when every header is skipped in its full
length; the walk takes this length modulo 256, stops at byte 154 of the buffer and does not look
behind the option of MLD. `walksChain_iff` proves for which packets the walk ends and marks
exactly what the chain leads to.
-/

import FalconGpon.Mcc.PacketBounds

namespace FalconGpon.Mcc

open FalconGpon.Lib

/-! ## The chain of the headers -/

def IsOptHdr (nextHdr : BitVec 8) : Prop :=
  nextHdr = mccIpProtoIpv6Route ∨ nextHdr = mccIpProtoIpv6Opts

instance : DecidablePred IsOptHdr :=
  fun nextHdr => inferInstanceAs (Decidable (_ ∨ nextHdr = mccIpProtoIpv6Opts))

def IsExtHdr (nextHdr : BitVec 8) : Prop :=
  nextHdr = mccIpProtoIpv6HopByHop ∨ IsOptHdr nextHdr

def Ip6Ext.fullLen (ext : Ip6Ext) : Nat :=
  (ext.len.toNat + 1) * 8

/-- A chain through headers of some kind, each skipped in its full length, leads to ICMPv6. -/
inductive RxBuffer.LeadsTo (buf : RxBuffer) (kind : BitVec 8 → Prop) : BitVec 8 → Int → Int → Prop
  | icmp (p : Int) : buf.LeadsTo kind mccIpProtoIpv6Icmp p p
  | skip {nextHdr : BitVec 8} {p q : Int} (hkind : kind nextHdr)
      (hrest : buf.LeadsTo kind (buf.ip6ExtAt p).nxt (p + (buf.ip6ExtAt p).fullLen) q) :
      buf.LeadsTo kind nextHdr p q

/-- `sizeof(struct icmp6_hdr)` without the data. -/
def icmp6HdrSize : Nat := 4

def RxBuffer.LeadsInside (buf : RxBuffer) (nextHdr : BitVec 8) (p q : Int) : Prop :=
  buf.LeadsTo IsExtHdr nextHdr p q ∧ buf.Holds q icmp6HdrSize

/-- A search that takes turns ends, and marks a header exactly if it is right. -/
structure Marks (find : Nat → Traced Access (Int × BitVec 32)) (right : Int → Prop) : Prop where
  ends : ∃ turns, ∀ more, find (turns + more) = find turns
  marks : ∀ q, (∃ turns len, (find turns).result = some (q, len)) ↔ right q

/-- The walk over the headers of the IPv6 packet at `off`. -/
def RxBuffer.WalksChain (buf : RxBuffer) (off : Nat) : Prop :=
  Marks (fun turns => mldHdrFind buf turns (buf.ip6HdrAt off) (off + ip6HdrSize))
    (buf.LeadsInside (buf.ip6HdrAt off).nxt (off + ip6HdrSize))

/-! ## The condition -/

def RxBuffer.ShortLeads (buf : RxBuffer) (nextHdr : BitVec 8) (p q : Int) : Prop :=
  ∃ k, buf.extHdrAfter k nextHdr p = some (mccIpProtoIpv6Icmp, q) ∧ q < extHdrLimit

def RxBuffer.Circles (buf : RxBuffer) (nextHdr : BitVec 8) (p : Int) : Prop :=
  ∃ k nextHdr' p', buf.extHdrAfter k nextHdr p = some (nextHdr', p') ∧ p' < extHdrLimit ∧
    IsOptHdr nextHdr' ∧ (buf.ip6ExtAt p').optHdrLen = 0 ∧ IsOptHdr (buf.ip6ExtAt p').nxt

/-- The chain from `p` on leads to ICMPv6 inside the packet only where the walk still looks and
through headers that it skips; and if it does not, then the chain with lengths modulo 256, which
starts at `short`, neither leads to ICMPv6 nor goes in a circle. -/
structure RxBuffer.WalkGuard (buf : RxBuffer) (nextHdr : BitVec 8) (short p : Int) : Prop where
  inside : ∀ q, buf.LeadsInside nextHdr p q →
    q < extHdrLimit ∧ buf.LeadsTo IsOptHdr nextHdr p q
  outside : (¬∃ q, buf.LeadsInside nextHdr p q) →
    ¬buf.Circles nextHdr short ∧ ∀ q, ¬buf.ShortLeads nextHdr short q

/-- What the walk relies on. Right behind the option of MLD it takes anything for ICMPv6. -/
def RxBuffer.ChainGuard (buf : RxBuffer) (off : Nat) : Prop :=
  let p : Int := off + ip6HdrSize
  if (buf.ip6HdrAt off).nxt = mccIpProtoIpv6HopByHop then
    if buf.field32 (p + 2) = mccTlvMld then
      (buf.ip6ExtAt p).nxt = mccIpProtoIpv6Icmp ∧ (buf.ip6ExtAt p).len.toNat < 31 ∧
        buf.Holds (p + (buf.ip6ExtAt p).fullLen) icmp6HdrSize
    else
      buf.WalkGuard (buf.ip6ExtAt p).nxt (p + (buf.ip6ExtAt p).optHdrLen.toNat)
        (p + (buf.ip6ExtAt p).fullLen)
  else
    buf.WalkGuard (buf.ip6HdrAt off).nxt p p

/-! ## Lengths -/

section

variable {buf : RxBuffer} {ext : Ip6Ext} {nextHdr : BitVec 8} {p q : Int}

theorem Ip6Ext.toNat_optHdrLen : ext.optHdrLen.toNat = ext.fullLen % 256 := by
  rw [Ip6Ext.optHdrLen, Ip6Ext.fullLen, BitVec.toNat_mul, BitVec.toNat_add]
  change (ext.len.toNat + 1) % 256 * 8 % 256 = _
  omega

theorem Ip6Ext.optHdrLen_or_far (ext : Ip6Ext) (hp : 0 ≤ p) :
    (ext.optHdrLen.toNat = ext.fullLen ∧ ext.len.toNat < 31) ∨ extHdrLimit < p + ext.fullLen := by
  rw [ext.toNat_optHdrLen]
  by_cases hfits : ext.fullLen < 256
  · left
    refine ⟨Nat.mod_eq_of_lt hfits, ?_⟩
    rw [Ip6Ext.fullLen] at hfits
    omega
  · right
    have hlimit : extHdrLimit = 154 := rfl
    omega

/-! ## Where a chain leads to -/

variable {kind : BitVec 8 → Prop}

theorem RxBuffer.LeadsTo.le (h : buf.LeadsTo kind nextHdr p q) : p ≤ q := by
  induction h with
  | icmp p => exact le_rfl
  | skip _ _ ih => omega

theorem RxBuffer.LeadsTo.eq_icmp (h : buf.LeadsTo kind nextHdr p p) :
    nextHdr = mccIpProtoIpv6Icmp := by
  cases h with
  | icmp => rfl
  | skip _ hrest =>
      have hle := hrest.le
      rw [Ip6Ext.fullLen] at hle
      omega

theorem not_isExtHdr_icmp : ¬IsExtHdr mccIpProtoIpv6Icmp := by
  rw [IsExtHdr]
  decide

theorem RxBuffer.LeadsTo.unique {q' : Int} (h : buf.LeadsTo IsExtHdr nextHdr p q)
    (h' : buf.LeadsTo IsExtHdr nextHdr p q') : q = q' := by
  induction h with
  | icmp p =>
      cases h' with
      | icmp => rfl
      | skip hkind _ => exact absurd hkind not_isExtHdr_icmp
  | skip hkind _ ih =>
      cases h' with
      | icmp => exact absurd hkind not_isExtHdr_icmp
      | skip _ hrest' => exact ih hrest'

theorem RxBuffer.LeadsInside.unique {q' : Int} (h : buf.LeadsInside nextHdr p q)
    (h' : buf.LeadsInside nextHdr p q') : q = q' :=
  h.1.unique h'.1

theorem leadsInside_skip (hkind : IsExtHdr nextHdr) :
    buf.LeadsInside nextHdr p q ↔
      buf.LeadsInside (buf.ip6ExtAt p).nxt (p + (buf.ip6ExtAt p).fullLen) q := by
  constructor
  · rintro ⟨hleads, hin⟩
    cases hleads with
    | icmp => exact absurd hkind not_isExtHdr_icmp
    | skip _ hrest => exact ⟨hrest, hin⟩
  · rintro ⟨hleads, hin⟩
    exact ⟨.skip hkind hleads, hin⟩

end

/-! ## One turn of the walk -/

section

variable {buf : RxBuffer} {nextHdr : BitVec 8} {p q : Int}

theorem extHdrNext_of_opt (hp : p < extHdrLimit) (hopt : IsOptHdr nextHdr) :
    buf.extHdrNext nextHdr p =
      some ((buf.ip6ExtAt p).nxt, p + (buf.ip6ExtAt p).optHdrLen.toNat) :=
  if_pos ⟨hp, hopt⟩

theorem extHdrNext_eq_some {next : BitVec 8 × Int} (h : buf.extHdrNext nextHdr p = some next) :
    p < extHdrLimit ∧ IsOptHdr nextHdr ∧
      next = ((buf.ip6ExtAt p).nxt, p + (buf.ip6ExtAt p).optHdrLen.toNat) := by
  rw [RxBuffer.extHdrNext] at h
  split at h
  · rename_i hstep
    exact ⟨hstep.1, hstep.2, (Option.some.inj h).symm⟩
  · cases h

theorem extHdrWalk_opt (hp : p < extHdrLimit) (hopt : IsOptHdr nextHdr) (turns : Nat)
    (len : BitVec 32) :
    extHdrWalk buf (turns + 1) nextHdr p len = (do
      let optHdr ← readIp6Ext buf p
      extHdrWalk buf turns optHdr.nxt (p + optHdr.optHdrLen.toNat)
        (len - optHdr.optHdrLen.setWidth 32)) := by
  rw [extHdrWalk, if_pos hp]
  exact if_pos hopt

theorem not_isOptHdr_icmp : ¬IsOptHdr mccIpProtoIpv6Icmp := by
  decide

theorem extHdrWalk_icmp (hp : p < extHdrLimit) (turns : Nat) (len : BitVec 32) :
    extHdrWalk buf (turns + 1) mccIpProtoIpv6Icmp p len = pure (p, len) := by
  rw [extHdrWalk, if_pos hp]
  exact if_neg not_isOptHdr_icmp

theorem extHdrWalk_stop (hstop : ¬(p < extHdrLimit ∧ IsOptHdr nextHdr)) (turns : Nat)
    (len : BitVec 32) :
    extHdrWalk buf (turns + 1) nextHdr p len = extHdrWalk buf 1 nextHdr p len := by
  rw [extHdrWalk, extHdrWalk]
  by_cases hp : p < extHdrLimit
  · have hopt : ¬(nextHdr = mccIpProtoIpv6Route ∨ nextHdr = mccIpProtoIpv6Opts) :=
      fun hopt => hstop ⟨hp, hopt⟩
    rw [if_pos hp, if_neg hopt, if_pos hp, if_neg hopt]
  · rw [if_neg hp, if_neg hp]

/-! ## What the walk finds -/

/-- The walk marks only what the short chain leads to. -/
theorem shortLeads_of_result {turns : Nat} {len len' : BitVec 32}
    (h : (extHdrWalk buf turns nextHdr p len).result = some (q, len')) :
    buf.ShortLeads nextHdr p q := by
  induction turns generalizing nextHdr p len with
  | zero => cases h
  | succ turns ih =>
      by_cases hp : p < extHdrLimit
      · by_cases hopt : IsOptHdr nextHdr
        · rw [extHdrWalk_opt hp hopt] at h
          obtain ⟨k, hk, hq⟩ := ih h
          refine ⟨k + 1, ?_, hq⟩
          rw [RxBuffer.extHdrAfter, extHdrNext_of_opt hp hopt]
          exact hk
        · rw [extHdrWalk, if_pos hp, if_neg (by exact hopt)] at h
          split at h
          · rename_i hicmp
            obtain ⟨rfl, _⟩ := Prod.mk.inj (Option.some.inj h)
            exact ⟨0, by rw [hicmp, RxBuffer.extHdrAfter], hp⟩
          · cases h
      · rw [extHdrWalk, if_neg hp] at h
        cases h

/-- The walk marks what the short chain leads to, and more turns change nothing. -/
theorem ends_of_extHdrAfter {k : Nat}
    (hk : buf.extHdrAfter k nextHdr p = some (mccIpProtoIpv6Icmp, q)) (hq : q < extHdrLimit)
    (len : BitVec 32) :
    ∃ len', ∀ more, extHdrWalk buf (k + 1 + more) nextHdr p len =
        extHdrWalk buf (k + 1) nextHdr p len ∧
      (extHdrWalk buf (k + 1) nextHdr p len).result = some (q, len') := by
  induction k generalizing nextHdr p len with
  | zero =>
      rw [RxBuffer.extHdrAfter] at hk
      obtain ⟨rfl, rfl⟩ := Prod.mk.inj (Option.some.inj hk)
      refine ⟨len, ?_⟩
      intro more
      rw [Nat.zero_add, Nat.add_comm 1 more, extHdrWalk_icmp hq, extHdrWalk_icmp hq]
      exact ⟨rfl, rfl⟩
  | succ k ih =>
      rw [RxBuffer.extHdrAfter] at hk
      obtain ⟨next, hnext, hrest⟩ := Option.bind_eq_some_iff.mp hk
      obtain ⟨hp, hopt, rfl⟩ := extHdrNext_eq_some hnext
      obtain ⟨len', hih⟩ := ih hrest (len - (buf.ip6ExtAt p).optHdrLen.setWidth 32)
      refine ⟨len', ?_⟩
      intro more
      have hturns : k + 1 + 1 + more = k + 1 + more + 1 := by omega
      rw [hturns, extHdrWalk_opt hp hopt, extHdrWalk_opt hp hopt]
      constructor
      · refine Traced.bind_congr fun optHdr hread => ?_
        cases hread
        exact (hih more).1
      · exact (hih more).2

/-! ## Whether the walk ends -/

theorem circles_of_next {next : BitVec 8 × Int} (hnext : buf.extHdrNext nextHdr p = some next)
    (h : buf.Circles next.1 next.2) : buf.Circles nextHdr p := by
  obtain ⟨k, nextHdr', p', hk, hrest⟩ := h
  refine ⟨k + 1, nextHdr', p', ?_, hrest⟩
  rw [RxBuffer.extHdrAfter, hnext]
  exact hk

/-- Without a circle the walk ends: every turn but the last ones goes forward. -/
theorem extHdrWalk_ends (hcircles : ¬buf.Circles nextHdr p) (len : BitVec 32) :
    ∃ turns, ∀ more, extHdrWalk buf (turns + 1 + more) nextHdr p len =
      extHdrWalk buf (turns + 1) nextHdr p len := by
  -- the measure is what is left to the limit
  induction hleft : (extHdrLimit - p).toNat using Nat.strong_induction_on
    generalizing nextHdr p len with
  | _ left ih =>
      by_cases hstep : p < extHdrLimit ∧ IsOptHdr nextHdr
      · obtain ⟨hp, hopt⟩ := hstep
        have hnext : buf.extHdrNext nextHdr p = some ((buf.ip6ExtAt p).nxt,
            p + (buf.ip6ExtAt p).optHdrLen.toNat) := extHdrNext_of_opt hp hopt
        have hrest : ∃ turns, ∀ more,
            extHdrWalk buf (turns + 1 + more) (buf.ip6ExtAt p).nxt
                (p + (buf.ip6ExtAt p).optHdrLen.toNat)
                (len - (buf.ip6ExtAt p).optHdrLen.setWidth 32) =
              extHdrWalk buf (turns + 1) (buf.ip6ExtAt p).nxt
                (p + (buf.ip6ExtAt p).optHdrLen.toNat)
                (len - (buf.ip6ExtAt p).optHdrLen.setWidth 32) := by
          by_cases hzero : (buf.ip6ExtAt p).optHdrLen = 0
          · have hlast : ¬IsOptHdr (buf.ip6ExtAt p).nxt :=
              fun hagain => hcircles ⟨0, nextHdr, p, rfl, hp, hopt, hzero, hagain⟩
            refine ⟨0, ?_⟩
            intro more
            rw [Nat.zero_add, Nat.add_comm 1 more]
            exact extHdrWalk_stop (fun h => hlast h.2) more _
          · have hpos : 0 < (buf.ip6ExtAt p).optHdrLen.toNat := by
              apply Nat.pos_of_ne_zero
              exact fun h => hzero (BitVec.eq_of_toNat_eq h)
            exact ih _ (by omega) (fun h => hcircles (circles_of_next hnext h)) _ rfl
        obtain ⟨turns, hturns⟩ := hrest
        refine ⟨turns + 1, ?_⟩
        intro more
        have hsum : turns + 1 + 1 + more = turns + 1 + more + 1 := by omega
        rw [hsum, extHdrWalk_opt hp hopt, extHdrWalk_opt hp hopt]
        refine Traced.bind_congr fun optHdr hread => ?_
        cases hread
        exact hturns more
      · refine ⟨0, ?_⟩
        intro more
        rw [Nat.zero_add, Nat.add_comm 1 more]
        exact extHdrWalk_stop hstep more len

theorem length_trace_extHdrWalk (hp : p < extHdrLimit) (hopt : IsOptHdr nextHdr) (turns : Nat)
    (len : BitVec 32) : (extHdrWalk buf (turns + 1) nextHdr p len).trace.length =
      (extHdrWalk buf turns (buf.ip6ExtAt p).nxt (p + (buf.ip6ExtAt p).optHdrLen.toNat)
        (len - (buf.ip6ExtAt p).optHdrLen.setWidth 32)).trace.length + 1 := by
  rw [extHdrWalk_opt hp hopt]
  rfl

theorem length_trace_circle (hp : p < extHdrLimit) (hopt : IsOptHdr nextHdr)
    (hzero : (buf.ip6ExtAt p).optHdrLen = 0) (hagain : IsOptHdr (buf.ip6ExtAt p).nxt)
    (turns : Nat) (len : BitVec 32) :
    (extHdrWalk buf turns nextHdr p len).trace.length = turns := by
  induction turns generalizing nextHdr len with
  | zero => rfl
  | succ turns ih =>
      have hsame : p + ((buf.ip6ExtAt p).optHdrLen.toNat : Int) = p := by
        rw [hzero]
        exact Int.add_zero p
      rw [length_trace_extHdrWalk hp hopt, hsame, ih hagain]

/-- Once in a circle, the walk reads on with every turn. -/
theorem le_length_trace_of_circles (h : buf.Circles nextHdr p) :
    ∃ k, ∀ turns len, turns ≤ (extHdrWalk buf (k + turns) nextHdr p len).trace.length := by
  obtain ⟨k, nextHdr', p', hk, hp, hopt, hzero, hagain⟩ := h
  refine ⟨k, ?_⟩
  induction k generalizing nextHdr p with
  | zero =>
      obtain ⟨rfl, rfl⟩ := Prod.mk.inj (Option.some.inj hk)
      intro turns len
      rw [Nat.zero_add, length_trace_circle hp hopt hzero hagain]
  | succ k ih =>
      obtain ⟨next, hnext, hrest⟩ := Option.bind_eq_some_iff.mp hk
      obtain ⟨hbelow, hskip, rfl⟩ := extHdrNext_eq_some hnext
      intro turns len
      rw [Nat.add_right_comm, length_trace_extHdrWalk hbelow hskip]
      exact (ih hrest turns _).trans (Nat.le_succ _)

theorem not_circles_of_ends {len : BitVec 32}
    (h : ∃ turns, ∀ more, extHdrWalk buf (turns + more) nextHdr p len =
      extHdrWalk buf turns nextHdr p len) : ¬buf.Circles nextHdr p := by
  intro hcircles
  obtain ⟨turns, hturns⟩ := h
  obtain ⟨k, hk⟩ := le_length_trace_of_circles hcircles
  -- more reads than the walk has made by its end
  have hlong := hk (turns + (extHdrWalk buf turns nextHdr p len).trace.length + 1) len
  have hsum : k + (turns + (extHdrWalk buf turns nextHdr p len).trace.length + 1) =
      turns + (k + (extHdrWalk buf turns nextHdr p len).trace.length + 1) := by omega
  rw [hsum, hturns] at hlong
  omega

/-! ## The short chain and the full one -/

theorem shortLeads_of_leadsTo (hp : 0 ≤ p) (h : buf.LeadsTo IsOptHdr nextHdr p q)
    (hq : q < extHdrLimit) : buf.ShortLeads nextHdr p q := by
  induction h with
  | icmp p => exact ⟨0, rfl, hq⟩
  | skip hopt hrest ih =>
      rename_i nextHdr p q
      have hle := hrest.le
      obtain ⟨hlen, _⟩ := ((buf.ip6ExtAt p).optHdrLen_or_far hp).resolve_right
        fun hfar => by omega
      obtain ⟨k, hk, _⟩ := ih (by omega) hq
      refine ⟨k + 1, ?_, hq⟩
      have hbelow : p < extHdrLimit := by omega
      rw [RxBuffer.extHdrAfter, extHdrNext_of_opt hbelow hopt, hlen]
      exact hk

/-- A chain that leads to where the walk finds it goes through headers that the walk skips. -/
theorem leadsTo_of_shortLeads (hp : 0 ≤ p) (h : buf.LeadsTo IsExtHdr nextHdr p q)
    (hshort : buf.ShortLeads nextHdr p q) : buf.LeadsTo IsOptHdr nextHdr p q := by
  obtain ⟨k, hk, hq⟩ := hshort
  induction k generalizing nextHdr p with
  | zero =>
      obtain ⟨rfl, rfl⟩ := Prod.mk.inj (Option.some.inj hk)
      exact .icmp p
  | succ k ih =>
      obtain ⟨next, hnext, hrest⟩ := Option.bind_eq_some_iff.mp hk
      obtain ⟨_, hopt, rfl⟩ := extHdrNext_eq_some hnext
      cases h with
      | icmp => exact absurd hopt not_isOptHdr_icmp
      | skip _ hfull =>
          have hle := hfull.le
          obtain ⟨hlen, _⟩ := ((buf.ip6ExtAt p).optHdrLen_or_far hp).resolve_right
            fun hfar => by omega
          rw [hlen] at hrest
          exact .skip hopt (ih (by omega) hfull hrest)

theorem exists_result_extHdrWalk_iff (len : BitVec 32) :
    (∃ turns len', (extHdrWalk buf turns nextHdr p len).result = some (q, len')) ↔
      buf.ShortLeads nextHdr p q := by
  constructor
  · rintro ⟨turns, len', hresult⟩
    exact shortLeads_of_result hresult
  · rintro ⟨k, hk, hq⟩
    obtain ⟨len', hends⟩ := ends_of_extHdrAfter hk hq len
    exact ⟨k + 1, len', (hends 0).2⟩

theorem RxBuffer.ShortLeads.unique {q' : Int} (h : buf.ShortLeads nextHdr p q)
    (h' : buf.ShortLeads nextHdr p q') : q = q' := by
  obtain ⟨k, hk, hq⟩ := h
  obtain ⟨k', hk', hq'⟩ := h'
  obtain ⟨len, hends⟩ := ends_of_extHdrAfter hk hq 0
  obtain ⟨len', hends'⟩ := ends_of_extHdrAfter hk' hq' 0
  -- both runs with the turns of the two together
  have hsame : k + 1 + (k' + 1) = k' + 1 + (k + 1) := Nat.add_comm _ _
  have hfirst := (hends (k' + 1)).1.symm.trans (hsame ▸ (hends' (k + 1)).1)
  have hresult := (hends 0).2
  rw [hfirst, (hends' 0).2, Option.some.injEq, Prod.mk.injEq] at hresult
  exact hresult.1.symm

/-- The walk from `short` is right for the chain from `p` exactly under the guard. -/
theorem marks_extHdrWalk_iff {short : Int} (hshort : 0 ≤ short)
    (hstart : short = p ∨ extHdrLimit < p) (len : BitVec 32) :
    Marks (fun turns => extHdrWalk buf turns nextHdr short len) (buf.LeadsInside nextHdr p) ↔
      buf.WalkGuard nextHdr short p := by
  have hnear : ∀ {q}, buf.LeadsInside nextHdr p q → q < extHdrLimit → short = p := by
    intro q hleads hq
    have hle := hleads.1.le
    exact hstart.resolve_right fun hfar => by omega
  constructor
  · intro h
    have hmarks : ∀ q, buf.ShortLeads nextHdr short q ↔ buf.LeadsInside nextHdr p q :=
      fun q => (exists_result_extHdrWalk_iff len).symm.trans (h.marks q)
    constructor
    case inside =>
        intro q hleads
        have hfound := (hmarks q).mpr hleads
        have hq : q < extHdrLimit := hfound.choose_spec.2
        have hsame := hnear hleads hq
        rw [hsame] at hfound hshort
        exact ⟨hq, leadsTo_of_shortLeads hshort hleads.1 hfound⟩
    case outside =>
        intro hnone
        exact ⟨not_circles_of_ends h.ends, fun q hfound => hnone ⟨q, (hmarks q).mp hfound⟩⟩
  · intro h
    by_cases hleads : ∃ q, buf.LeadsInside nextHdr p q
    · obtain ⟨q, hleads⟩ := hleads
      obtain ⟨hq, hopt⟩ := h.inside q hleads
      have hsame := hnear hleads hq
      subst hsame
      have hfound := shortLeads_of_leadsTo hshort hopt hq
      constructor
      case ends =>
          obtain ⟨k, hk, _⟩ := hfound
          obtain ⟨_, hends⟩ := ends_of_extHdrAfter hk hq len
          exact ⟨k + 1, fun more => (hends more).1⟩
      case marks =>
          intro q'
          rw [exists_result_extHdrWalk_iff]
          constructor
          · intro hfound'
            exact hfound.unique hfound' ▸ hleads
          · intro hleads'
            exact hleads.unique hleads' ▸ hfound
    · obtain ⟨hcircles, hnone⟩ := h.outside hleads
      obtain ⟨turns, hturns⟩ := extHdrWalk_ends hcircles len
      constructor
      case ends => exact ⟨turns + 1, hturns⟩
      case marks =>
          intro q
          rw [exists_result_extHdrWalk_iff]
          exact iff_of_false (hnone q) fun hin => hleads ⟨q, hin⟩

/-- Reads in front of a search do not matter. -/
theorem marks_of_step {find find' : Nat → Traced Access (Int × BitVec 32)} {right : Int → Prop}
    {reads : List Access}
    (h : ∀ turns, find turns = ⟨(find' turns).result, reads ++ (find' turns).trace⟩) :
    Marks find right ↔ Marks find' right := by
  have hresult : ∀ turns, (find turns).result = (find' turns).result := by
    intro turns
    rw [h]
  have hsame : ∀ turns turns', find turns = find turns' ↔ find' turns = find' turns' := by
    intro turns turns'
    rw [h, h, Traced.mk.injEq, List.append_cancel_left_eq]
    exact Traced.mk.injEq _ _ _ _ ▸ Iff.rfl
  constructor
  · intro hmarks
    constructor
    case ends =>
        obtain ⟨turns, hturns⟩ := hmarks.ends
        exact ⟨turns, fun more => (hsame _ _).mp (hturns more)⟩
    case marks =>
        intro q
        rw [← hmarks.marks q]
        simp only [hresult]
  · intro hmarks
    constructor
    case ends =>
        obtain ⟨turns, hturns⟩ := hmarks.ends
        exact ⟨turns, fun more => (hsame _ _).mpr (hturns more)⟩
    case marks =>
        intro q
        rw [← hmarks.marks q]
        simp only [hresult]

/-- A search that always marks the same is right exactly if this is. -/
theorem marks_pure_iff {short : Int} (len : BitVec 32) {right : Int → Prop}
    (hunique : ∀ q q', right q → right q' → q = q') :
    Marks (fun _ => pure (short, len)) right ↔ right short := by
  constructor
  · intro h
    exact (h.marks short).mp ⟨0, len, rfl⟩
  · intro hright
    constructor
    case ends => exact ⟨0, fun _ => rfl⟩
    case marks =>
        intro q
        constructor
        · rintro ⟨_, len', hresult⟩
          obtain ⟨rfl, _⟩ := Prod.mk.inj (Option.some.inj hresult)
          exact hright
        · intro hq
          exact ⟨0, len, by rw [hunique q short hq hright]; rfl⟩

/-! ## The packets -/

/-- Behind a hop by hop header with the option of MLD comes what the walk takes for ICMPv6. -/
theorem leadsInside_hopByHop_iff :
    buf.LeadsInside mccIpProtoIpv6HopByHop p (p + (buf.ip6ExtAt p).optHdrLen.toNat) ↔
      (buf.ip6ExtAt p).nxt = mccIpProtoIpv6Icmp ∧ (buf.ip6ExtAt p).len.toNat < 31 ∧
        buf.Holds (p + (buf.ip6ExtAt p).fullLen) icmp6HdrSize := by
  have hmod := (buf.ip6ExtAt p).toNat_optHdrLen
  rw [leadsInside_skip (.inl rfl)]
  constructor
  · rintro ⟨hleads, hin⟩
    have hle := hleads.le
    -- what is marked lies behind the header, so its length fits into a byte
    have hlen : (buf.ip6ExtAt p).optHdrLen.toNat = (buf.ip6ExtAt p).fullLen := by omega
    have hsmall : (buf.ip6ExtAt p).len.toNat < 31 := by
      have hlt := (buf.ip6ExtAt p).optHdrLen.isLt
      rw [hlen, Ip6Ext.fullLen] at hlt
      omega
    rw [hlen] at hleads hin
    exact ⟨hleads.eq_icmp, hsmall, hin⟩
  · rintro ⟨hnxt, hsmall, hin⟩
    have hlen : (buf.ip6ExtAt p).optHdrLen.toNat = (buf.ip6ExtAt p).fullLen := by
      rw [hmod, Ip6Ext.fullLen]
      omega
    rw [hlen, hnxt]
    exact ⟨.icmp _, hin⟩

theorem mldHdrFind_hopByHop {hdr : Ip6Hdr} (hhop : hdr.nxt = mccIpProtoIpv6HopByHop)
    (turns : Nat) {x : Traced Access (Int × BitVec 32)}
    (hx : x = if buf.field32 (p + 2) = mccTlvMld then
        pure (p + (buf.ip6ExtAt p).optHdrLen.toNat, buf.hopByHopLen hdr p)
      else extHdrWalk buf turns (buf.ip6ExtAt p).nxt (p + (buf.ip6ExtAt p).optHdrLen.toNat)
        (buf.hopByHopLen hdr p)) :
    mldHdrFind buf turns hdr p = ⟨x.result, [⟨p + 2, 4⟩, ⟨p, 2⟩] ++ x.trace⟩ := by
  rw [mldHdrFind, if_pos hhop, hx]
  rfl

/-- The walk over the extension headers ends and marks what the chain leads to, exactly under
the guard. -/
theorem walksChain_iff (buf : RxBuffer) (off : Nat) : buf.WalksChain off ↔ buf.ChainGuard off := by
  have hp : (0 : Int) ≤ off + ip6HdrSize := by omega
  unfold RxBuffer.WalksChain RxBuffer.ChainGuard
  generalize (off : Int) + ip6HdrSize = p at hp ⊢
  generalize buf.ip6HdrAt off = hdr
  dsimp only
  split
  · rename_i hhop
    rw [hhop]
    split
    · rename_i htlv
      rw [marks_of_step fun turns => mldHdrFind_hopByHop hhop turns (if_pos htlv).symm,
        marks_pure_iff _ fun q q' hq hq' => hq.unique hq', leadsInside_hopByHop_iff]
    · rename_i htlv
      have hright : buf.LeadsInside mccIpProtoIpv6HopByHop p =
          buf.LeadsInside (buf.ip6ExtAt p).nxt (p + (buf.ip6ExtAt p).fullLen) :=
        funext fun q => propext (leadsInside_skip (.inl rfl))
      have hstart : p + ((buf.ip6ExtAt p).optHdrLen.toNat : Int) = p + (buf.ip6ExtAt p).fullLen ∨
          extHdrLimit < p + (buf.ip6ExtAt p).fullLen := by
        refine ((buf.ip6ExtAt p).optHdrLen_or_far hp).imp_left ?_
        intro hlen
        rw [hlen.1]
      rw [marks_of_step fun turns => mldHdrFind_hopByHop hhop turns (if_neg htlv).symm, hright]
      exact marks_extHdrWalk_iff (by omega) hstart _
  · rename_i hhop
    have hwalk : (fun turns => mldHdrFind buf turns hdr p) =
        fun turns => extHdrWalk buf turns hdr.nxt p (hdr.plen.setWidth 32) := by
      funext turns
      rw [mldHdrFind, if_neg hhop]
    rw [hwalk]
    exact marks_extHdrWalk_iff hp (.inl rfl) _

/-- An MLDv2 report behind two destination options headers, the first with 256 bytes. -/
def wideOptions : RxBuffer where
  data i :=
    -- the exception header and the Ethernet header
    ([0, 0, 0, 192, 0, 0, 0, 12,
      51, 51, 0, 0, 0, 22, 2, 0, 0, 0, 0, 1, 134, 221,
      -- the IPv6 header
      96, 0, 0, 0, 1, 16, 60, 1,
      254, 128, 0, 0, 0, 0, 0, 0, 0, 0, 0, 0, 0, 0, 0, 1,
      255, 2, 0, 0, 0, 0, 0, 0, 0, 0, 0, 0, 0, 0, 0, 22,
      -- the options and the report without a record
      60, 31] ++ List.replicate 254 0 ++ [58, 0, 1, 4, 0, 0, 0, 0] ++
      [143, 0, 0, 0, 0, 0, 0, 0] : List (BitVec 8)).getD i.toNat 0
  len := 334
  len_le := by decide

/-- The walk stays at the first header. -/
theorem wideOptions_not_walksChain :
    wideOptions.offsetIph = 22 ∧ wideOptions.field16 20 ≠ mccPppoeSessionStage ∧
      (wideOptions.ipHdrAt 22).version = 6 ∧ ¬wideOptions.WalksChain 22 := by
  refine ⟨by decide, by decide, by decide, ?_⟩
  intro h
  have hcircles : wideOptions.Circles mccIpProtoIpv6Opts 62 :=
    ⟨0, mccIpProtoIpv6Opts, 62, rfl, by decide, by decide, by decide, by decide⟩
  have hwalk : ∀ turns, mldHdrFind wideOptions turns (wideOptions.ip6HdrAt (22 : Nat))
      ((22 : Nat) + ip6HdrSize) = extHdrWalk wideOptions turns mccIpProtoIpv6Opts 62 272 := by
    intro turns
    rw [mldHdrFind, if_neg (by decide)]
    rfl
  obtain ⟨turns, hturns⟩ := h.ends
  simp only [hwalk] at hturns
  exact not_circles_of_ends ⟨turns, hturns⟩ hcircles

end

end FalconGpon.Mcc
