import CodeSurvey.Proofs.Narrowing
import CodeSurvey.Proofs.Sweep.Rounds
import CodeSurvey.Proofs.Sweep.Starts

/-!
# Landing pad markers

A search for markers reads bytes and decodes nothing. Each round is resumed behind the whole marker
of the last one; none is lost, because two markers never share a byte.

* `Code.IsMarker c o a` : the bytes of a marker lie at an address that is aligned as the options
  ask;
* `Code.add_four_le_of_holds` : two of them are four bytes apart at least;
* `Code.findMarker?_eq_some_iff`, `findMarker?_eq_none_iff` : one round gives the lowest;
* `Query.mem_hitsFrom_landingPad_iff` : all rounds give all that were left at first.
-/

namespace CodeSurvey

/-! ## Markers -/

namespace Code

/-- The four bytes of a marker lie at the address, which is aligned as the options ask. -/
def IsMarker (c : Code) (o : ScanOptions) (a : Address) : Prop :=
  c.Holds a [0xf3, 0x0f, 0x1e, 0xfa] ∧ ∀ n ∈ o.functionAlignment, n ≤ 1 ∨ a.toNat % n = 0

variable {c rest : Code} {o : ScanOptions} {a b : Address}

theorem Holds.getElem? {bs : List UInt8} (h : c.Holds a bs) {k : Nat} (hk : k < bs.length) :
    c.bytes[a.toNat - c.base.toNat + k]? = bs[k]? := by
  rcases h with ⟨front, back, hbytes, ha⟩
  rw [ha, Nat.add_sub_cancel_left, hbytes, List.getElem?_append_right (Nat.le_add_right _ _),
    Nat.add_sub_cancel_left, List.getElem?_append_left hk]

/-- Two markers do not overlap: the first byte of a marker occurs in it only once. -/
theorem add_four_le_of_holds (ha : c.Holds a landingPadBytes) (hb : c.Holds b landingPadBytes)
    (hlt : a < b) : a.toNat + 4 ≤ b.toNat := by
  rw [Address.lt_iff] at hlt
  have hlow := ha.bounds.1
  by_cases hfar : a.toNat + 4 ≤ b.toNat
  · exact hfar
  · -- The first byte of the upper marker would be another byte of the lower one.
    have hdist : b.toNat - a.toNat < 4 := by omega
    have hindex : a.toNat - c.base.toNat + (b.toNat - a.toNat) = b.toNat - c.base.toNat + 0 := by
      omega
    have hupper := hb.getElem? (k := 0) (by decide)
    have hlower := ha.getElem? hdist
    rw [hindex, hupper] at hlower
    have honce : ∀ d < 4, landingPadBytes[0]? = landingPadBytes[d]? → d = 0 := by decide
    have hzero := honce _ hdist hlower
    omega

theorem IsTail.isMarker_iff (h : c.IsTail rest a) :
    rest.IsMarker o b ↔ c.IsMarker o b ∧ a.toNat ≤ b.toNat := by
  rw [IsMarker, IsMarker, holds_drop_iff h.above h.start h.bytes (List.cons_ne_nil _ _),
    and_right_comm]

end Code

/-! ## One round -/

/-- The search goes no farther than to a marker at an admitted address. -/
theorem Sweep.findMarker?_of_append {admits : Address → Bool} {a : Address}
    {front : List UInt8} (h : admits (a + front.length) = true) (back : List UInt8) :
    ∃ n ≤ front.length,
      findMarker? admits a (front ++ (landingPadBytes ++ back)) = some (a + n) := by
  induction front generalizing a with
  | nil =>
    have hhere : admits a = true := by rwa [List.length_nil, Address.add_zero] at h
    refine ⟨0, Nat.le_refl _, ?_⟩
    rw [Address.add_zero]
    simp [findMarker?, landingPadBytes, hhere]
  | cons x front ih =>
    rw [List.cons_append, findMarker?]
    split
    · exact ⟨0, Nat.zero_le _, by rw [Address.add_zero]⟩
    · have hbehind : a + 1 + front.length = a + (x :: front).length := by
        rw [Address.add_add, List.length_cons, Nat.add_comm]
      rw [← hbehind] at h
      rcases ih h with ⟨n, hn, hfind⟩
      refine ⟨n + 1, Nat.succ_le_succ hn, ?_⟩
      rw [hfind, Address.add_add, Nat.add_comm]

namespace Code

variable {c rest : Code} {o : ScanOptions} {a b : Address}

theorem isMarker_of_findMarker? (h : c.findMarker? o = some a) : c.IsMarker o a := by
  rcases Sweep.exists_append_of_findMarker? h with ⟨front, back, hbytes, rfl, hadmits⟩
  refine ⟨⟨front, back, hbytes, ?_⟩, ScanOptions.admits_iff.1 hadmits⟩
  have hlength := congrArg List.length hbytes
  rw [List.length_append] at hlength
  have hfits := c.fits
  have hstart : c.start.toNat = c.base.toNat := rfl
  exact Address.toNat_add_of_lt (by omega)

theorem IsMarker.exists_findMarker? (h : c.IsMarker o a) :
    ∃ b, c.findMarker? o = some b ∧ b ≤ a := by
  rcases h with ⟨⟨front, back, hbytes, hplace⟩, haligned⟩
  have hend := a.toNat_lt
  have ha : c.start + front.length = a := by
    apply Address.toNat_inj
    rw [hplace]
    exact Address.toNat_add_of_lt (hplace ▸ hend)
  have hadmits : o.admits (c.start + front.length) = true :=
    ScanOptions.admits_iff.2 (ha ▸ haligned)
  rcases Sweep.findMarker?_of_append hadmits back with ⟨n, hn, hfind⟩
  refine ⟨c.start + n, ?_, ?_⟩
  · rw [findMarker?, hbytes]
    exact hfind
  · have hstart : c.start.toNat = c.base.toNat := rfl
    have hlow : (c.start + n).toNat = c.start.toNat + n := Address.toNat_add_of_lt (by omega)
    rw [Address.le_iff]
    omega

theorem findMarker?_eq_some_iff :
    c.findMarker? o = some a ↔ c.IsMarker o a ∧ ∀ b, c.IsMarker o b → a ≤ b := by
  constructor
  · intro h
    refine ⟨isMarker_of_findMarker? h, ?_⟩
    intro b hb
    rcases hb.exists_findMarker? with ⟨b', hb', hle⟩
    cases h.symm.trans hb'
    exact hle
  · intro h
    rcases h.1.exists_findMarker? with ⟨b, hb, hle⟩
    have hge := h.2 b (isMarker_of_findMarker? hb)
    have hba : b = a := Address.toNat_inj (Nat.le_antisymm hle hge)
    rw [hb, hba]

theorem findMarker?_eq_none_iff : c.findMarker? o = none ↔ ∀ a, ¬c.IsMarker o a := by
  constructor
  · intro h a ha
    rcases ha.exists_findMarker? with ⟨b, hb, _⟩
    cases h.symm.trans hb
  · intro h
    cases hfind : c.findMarker? o with
    | none => rfl
    | some a => exact absurd (isMarker_of_findMarker? hfind) (h a)

end Code

/-! ## All rounds -/

namespace Query

variable {o : ScanOptions} {segment : Nat} {c rest : Code} {a : Address} {k : Hit}

/-- The rounds that are left find the markers that are left. The next round begins behind all bytes
of a marker, and the next marker lies behind them too. -/
theorem mem_hitsFrom_landingPad_iff {rounds : Nat} (htail : c.IsTail rest a)
    (henough : c.stop.toNat - a.toNat < rounds) :
    k ∈ (prologues .landingPad).hitsFrom o segment c rounds rest ↔
      ∃ b, c.IsMarker o b ∧ a.toNat ≤ b.toNat ∧ k = Hit.ofStart segment b := by
  induction rounds generalizing a rest with
  | zero => omega
  | succ n ih =>
    cases hfind : rest.findMarker? o with
    | none =>
      have hfirst : (prologues .landingPad).firstHit? o (fun _ => segment) rest = none :=
        Option.map_eq_none_iff.2 hfind
      rw [hitsFrom_of_none hfirst]
      refine iff_of_false (List.not_mem_nil) ?_
      intro hexists
      rcases hexists with ⟨b, hb, hab, _⟩
      exact Code.findMarker?_eq_none_iff.1 hfind b (htail.isMarker_iff.2 ⟨hb, hab⟩)
    | some b =>
      have hfirst : (prologues .landingPad).firstHit? o (fun _ => segment) rest =
          some (Hit.ofStart segment b) := Option.map_eq_some_iff.2 ⟨b, hfind, rfl⟩
      rcases Code.findMarker?_eq_some_iff.1 hfind with ⟨hmarker, hleast⟩
      rcases htail.isMarker_iff.1 hmarker with ⟨hb, hab⟩
      have hresume : (prologues .landingPad).resumeAt c (Hit.ofStart segment b) = b + 4 := rfl
      have hnext := isTail_resumeAt htail hfirst
      rw [hresume] at hnext
      have hfits : b.toNat + 4 ≤ c.base.toNat + c.bytes.length := hb.1.bounds.2
      have hend := c.toNat_stop
      have hmore : (b + 4).toNat = b.toNat + 4 := by
        have hlt := c.stop.toNat_lt
        exact Address.toNat_add_of_lt (by omega)
      rw [hitsFrom_of_some hfirst, List.mem_cons, hresume, ih hnext (by omega)]
      constructor
      · intro h
        rcases h with rfl | ⟨b', hb', hle, rfl⟩
        · exact ⟨b, hb, hab, rfl⟩
        · exact ⟨b', hb', by omega, rfl⟩
      · -- Another marker is above the first, and so behind all four bytes of it.
        intro h
        rcases h with ⟨b', hb', hle, rfl⟩
        have hge : b.toNat ≤ b'.toNat := hleast b' (htail.isMarker_iff.2 ⟨hb', hle⟩)
        by_cases heq : b' = b
        · exact .inl (by rw [heq])
        · have hne : b'.toNat ≠ b.toNat := fun h => heq (Address.toNat_inj h)
          have hlt : b < b' := Nat.lt_of_le_of_ne hge (Ne.symm hne)
          have hfar := Code.add_four_le_of_holds hb.1 hb'.1 hlt
          exact .inr ⟨b', hb', by omega, rfl⟩

/-- All markers of the code are hits, and nothing else is. -/
theorem mem_hitsIn_landingPad_iff :
    k ∈ (prologues .landingPad).hitsIn o segment c ↔
      ∃ a, c.IsMarker o a ∧ k = Hit.ofStart segment a := by
  have henough : c.stop.toNat - c.start.toNat < c.length + 1 :=
    Nat.lt_succ_of_le (Code.toNat_stop_sub_le (Nat.le_refl _))
  rw [hitsIn, mem_hitsFrom_landingPad_iff c.isTail_self henough]
  refine exists_congr ?_
  intro a
  constructor
  · intro h
    exact ⟨h.1, h.2.2⟩
  · intro h
    exact ⟨h.1, h.1.1.bounds.1, h.2⟩

end Query

end CodeSurvey
