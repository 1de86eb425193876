import A9N.Kernel.Capability.Node

/-!
# Descriptors and paths of Nodes

A descriptor is a depth byte followed by one field for every Node on the way: the ignored bits of
the Node, then the index of a slot. What is left of the word is not read.
-/

namespace A9N.Kernel

open Liba9n

/-- One step of a path: the slot `index` of the Node at `node`. `ignored` is what the descriptor has
in the bits that the Node ignores. -/
structure Level where
  node : Word
  ignored : Nat := 0
  index : Nat
deriving DecidableEq, Repr

namespace CapState

variable {σ : Type} (st : CapState σ)

def levelBits (level : Level) : Nat :=
  (st.nodes level.node).ignoreBits.toNat + (st.nodes level.node).radixBits.toNat

def pathBits (levels : List Level) : Nat := (levels.map st.levelBits).sum

def pathFields (low : Nat) : List Level → Nat → Nat
  | [], _ => low
  | level :: levels, width =>
    (level.ignored * 2 ^ (st.nodes level.node).radixBits.toNat + level.index) *
        2 ^ (width - st.levelBits level) +
      pathFields low levels (width - st.levelBits level)

def descriptor (depth low : Nat) (levels : List Level) : Word :=
  BitVec.ofNat 64 (depth * 2 ^ 56 + st.pathFields low levels 56)

structure InRange (level : Level) : Prop where
  geometry : Node.isGeometryValid (st.nodes level.node).ignoreBits
    (st.nodes level.node).radixBits = true
  hasSlots : (st.nodes level.node).hasSlots = true
  index : level.index < 2 ^ (st.nodes level.node).radixBits.toNat
  ignored : level.ignored < 2 ^ (st.nodes level.node).ignoreBits.toNat

def IsPath (levels : List Level) : Prop :=
  (∀ level ∈ levels, st.InRange level) ∧
    levels.IsChain fun level next =>
      (st.slots (.node level.node level.index)).component = some (.node next.node)

variable {st} {level : Level} {levels : List Level} {low width : Nat}

theorem InRange.radix_pos (h : st.InRange level) : 0 < (st.nodes level.node).radixBits.toNat := by
  have hgeometry := h.geometry
  simp only [Node.isGeometryValid, Bool.and_eq_true, bne_iff_ne, ne_eq] at hgeometry
  have hne := hgeometry.1.1.2
  exact Nat.pos_of_ne_zero fun hzero => hne (BitVec.eq_of_toNat_eq hzero)

theorem InRange.field_lt (h : st.InRange level) :
    level.ignored * 2 ^ (st.nodes level.node).radixBits.toNat + level.index <
      2 ^ st.levelBits level := by
  have hignored := Nat.mul_le_mul_right (2 ^ (st.nodes level.node).radixBits.toNat)
    (Nat.succ_le_of_lt h.ignored)
  have hindex := h.index
  rw [levelBits, Nat.pow_add]
  rw [Nat.succ_mul] at hignored
  omega

theorem pathBits_cons : st.pathBits (level :: levels) = st.levelBits level + st.pathBits levels := by
  simp [pathBits]

theorem pathBits_append (front back : List Level) :
    st.pathBits (front ++ back) = st.pathBits front + st.pathBits back := by
  simp [pathBits]

theorem pathFields_lt (hlevels : ∀ level ∈ levels, st.InRange level)
    (hwidth : st.pathBits levels ≤ width) (hlow : low < 2 ^ (width - st.pathBits levels)) :
    st.pathFields low levels width < 2 ^ width := by
  induction levels generalizing width with
  | nil => simpa [pathBits, pathFields] using hlow
  | cons level levels ih =>
    rw [pathBits_cons] at hwidth hlow
    have hfield := (hlevels level (by simp)).field_lt
    have hrest : st.pathFields low levels (width - st.levelBits level) <
        2 ^ (width - st.levelBits level) :=
      ih (fun other hother => hlevels other (by simp [hother])) (by omega)
        (by rwa [← Nat.sub_sub] at hlow)
    have hsplit : 2 ^ width = 2 ^ st.levelBits level * 2 ^ (width - st.levelBits level) := by
      rw [← Nat.pow_add]
      congr 1
      omega
    rw [pathFields, hsplit]
    calc _ < (level.ignored * 2 ^ (st.nodes level.node).radixBits.toNat + level.index) *
            2 ^ (width - st.levelBits level) + 2 ^ (width - st.levelBits level) := by omega
      _ = (level.ignored * 2 ^ (st.nodes level.node).radixBits.toNat + level.index + 1) *
            2 ^ (width - st.levelBits level) := by ring
      _ ≤ _ := Nat.mul_le_mul_right _ hfield

/-! ## One level -/

section Step

variable {word used : Word}

def Carries (st : CapState σ) (word : Word) (low used : Nat) (levels : List Level) : Prop :=
  word.toNat % 2 ^ (64 - used) = st.pathFields low levels (64 - used)

theorem calculateUsedBits_toNat (level : Level) (used : Word)
    (hused : used.toNat + st.levelBits level ≤ 64) :
    ((st.nodes level.node).calculateUsedBits used).toNat = used.toNat + st.levelBits level := by
  unfold levelBits at hused
  rw [NodeObject.calculateUsedBits, BitVec.toNat_add, BitVec.toNat_add, levelBits]
  omega

variable (hcarries : st.Carries word low used.toNat (level :: levels))
  (hlevels : ∀ other ∈ level :: levels, st.InRange other)
  (hused : used.toNat + st.pathBits (level :: levels) ≤ 64)
  (hlow : low < 2 ^ (64 - used.toNat - st.pathBits (level :: levels)))

include hlevels hused hlow in
theorem pathFields_tail_lt : st.pathFields low levels (64 - used.toNat - st.levelBits level) <
      2 ^ (64 - used.toNat - st.levelBits level) := by
  rw [pathBits_cons] at hused hlow
  apply pathFields_lt (fun other hother => hlevels other (by simp [hother])) (by omega)
  rwa [Nat.sub_sub _ (st.levelBits level)]

include hcarries hlevels hused hlow

theorem calculateCapabilityIndex_toNat (hpos : 0 < used.toNat) :
    ((st.nodes level.node).calculateCapabilityIndex word used).toNat = level.index := by
  have hin := hlevels level (by simp)
  have hradix := hin.radix_pos
  have htail := pathFields_tail_lt hlevels hused hlow
  have hbits : used.toNat + st.levelBits level ≤ 64 := by
    rw [pathBits_cons] at hused
    omega
  have hnew := calculateUsedBits_toNat level used hbits
  rw [NodeObject.calculateUsedBits] at hnew
  have hlevel : st.levelBits level = (st.nodes level.node).ignoreBits.toNat +
    (st.nodes level.node).radixBits.toNat := rfl
  have hshift : (Node.wordBits - ((st.nodes level.node).ignoreBits +
      (st.nodes level.node).radixBits + used)).toNat = 64 - used.toNat - st.levelBits level := by
    rw [BitVec.toNat_sub, hnew]
    change (2 ^ 64 - _ + 64) % 2 ^ 64 = _
    omega
  have hmask : ((st.nodes level.node).slotTotal - 1).toNat =
      2 ^ (st.nodes level.node).radixBits.toNat - 1 := by
    have hpow := Nat.pow_lt_pow_right (a := 2) (by decide)
      (show (st.nodes level.node).radixBits.toNat < 64 by omega)
    have hone : 0 < 2 ^ (st.nodes level.node).radixBits.toNat := Nat.two_pow_pos _
    rw [NodeObject.slotTotal, BitVec.toNat_sub, shiftLeft_one_toNat_of_lt (by omega)]
    change (2 ^ 64 - 1 + _) % 2 ^ 64 = _
    omega
  rw [NodeObject.calculateCapabilityIndex, BitVec.toNat_and, hmask,
    Nat.and_two_pow_sub_one_eq_mod, shiftRight, BitVec.toNat_ushiftRight, hshift,
    Nat.mod_eq_of_lt (show 64 - used.toNat - st.levelBits level < 64 by omega),
    Nat.shiftRight_eq_div_pow]
  -- above the field stand the bits of the levels that were passed, below it those to come
  have hword : word.toNat = word.toNat / 2 ^ (64 - used.toNat) * 2 ^ (64 - used.toNat) +
      st.pathFields low (level :: levels) (64 - used.toNat) := by
    rw [← hcarries]
    exact (Nat.div_add_mod' _ _).symm
  have hsplit : 2 ^ (64 - used.toNat) = 2 ^ (st.nodes level.node).ignoreBits.toNat *
      2 ^ (st.nodes level.node).radixBits.toNat * 2 ^ (64 - used.toNat - st.levelBits level) := by
    rw [← Nat.pow_add, ← Nat.pow_add]
    congr 1
    omega
  have hgather : word.toNat = st.pathFields low levels (64 - used.toNat - st.levelBits level) +
      2 ^ (64 - used.toNat - st.levelBits level) *
        (level.index + 2 ^ (st.nodes level.node).radixBits.toNat *
          (word.toNat / 2 ^ (64 - used.toNat) * 2 ^ (st.nodes level.node).ignoreBits.toNat +
            level.ignored)) := by
    calc word.toNat = word.toNat / 2 ^ (64 - used.toNat) * 2 ^ (64 - used.toNat) +
          st.pathFields low (level :: levels) (64 - used.toNat) := hword
      _ = _ := by
        rw [pathFields, hsplit]
        ring
  rw [hgather, Nat.add_mul_div_left _ _ (Nat.two_pow_pos _), Nat.div_eq_of_lt htail, Nat.zero_add,
    Nat.add_mul_mod_self_left, Nat.mod_eq_of_lt hin.index]

theorem Carries.tail : st.Carries word low (used.toNat + st.levelBits level) levels := by
  have htail := pathFields_tail_lt hlevels hused hlow
  have hbits : used.toNat + st.levelBits level ≤ 64 := by
    rw [pathBits_cons] at hused
    omega
  have hwidth : 64 - (used.toNat + st.levelBits level) = 64 - used.toNat - st.levelBits level := by
    omega
  have hdvd : 2 ^ (64 - used.toNat - st.levelBits level) ∣ 2 ^ (64 - used.toNat) :=
    Nat.pow_dvd_pow 2 (Nat.sub_le _ _)
  unfold Carries at hcarries ⊢
  rw [hwidth, ← Nat.mod_mod_of_dvd _ hdvd, hcarries, pathFields, Nat.add_comm, Nat.mul_comm,
    Nat.add_mul_mod_self_left, Nat.mod_eq_of_lt htail]

end Step

/-! ## Whole paths -/

theorem traverseSlot_of_carries {word used depth : Word} {last : Level} {rest : List Level}
    (front : List Level) (hpath : st.IsPath (front ++ last :: rest))
    (hused : used.toNat + st.pathBits (front ++ last :: rest) ≤ 64) (hpos : 0 < used.toNat)
    (hlow : low < 2 ^ (64 - used.toNat - st.pathBits (front ++ last :: rest)))
    (hcarries : st.Carries word low used.toNat (front ++ last :: rest))
    (hdepth : depth.toNat = used.toNat + st.pathBits (front ++ [last]))
    {fuel : Nat} (hfuel : front.length < fuel) :
    st.traverseSlot fuel (.node ((front ++ last :: rest).head (by simp)).node) word depth used =
      .ok (.node last.node last.index) := by
  -- one level of the path per unit of fuel
  induction front generalizing used fuel with
  | nil =>
    obtain ⟨fuel, rfl⟩ := Nat.exists_eq_succ_of_ne_zero (by omega : fuel ≠ 0)
    simp only [List.nil_append] at hpath hused hlow hcarries hdepth ⊢
    have hindex := calculateCapabilityIndex_toNat hcarries hpath.1 hused hlow hpos
    have hnew := calculateUsedBits_toNat last used
      (show used.toNat + st.levelBits last ≤ 64 by rw [pathBits_cons] at hused; omega)
    have hreached : (st.nodes last.node).calculateUsedBits used = depth := by
      apply BitVec.eq_of_toNat_eq
      rw [hnew, hdepth]
      simp [pathBits]
    simp only [List.head_cons, traverseSlot, retrieveSlot, (hpath.1 last (by simp)).hasSlots,
      if_true, hindex, hreached]
  | cons level front ih =>
    obtain ⟨fuel, rfl⟩ := Nat.exists_eq_succ_of_ne_zero (by omega : fuel ≠ 0)
    simp only [List.cons_append] at hpath hused hlow hcarries hdepth ⊢
    have hindex := calculateCapabilityIndex_toNat hcarries hpath.1 hused hlow hpos
    have hbits := hused
    rw [pathBits_cons] at hbits
    have hnew := calculateUsedBits_toNat level used
      (show used.toNat + st.levelBits level ≤ 64 by omega)
    -- the last Node consumes at least one more bit, so the depth is not met here
    have hmore : 0 < st.pathBits (front ++ [last]) := by
      have hradix := (hpath.1 last (by simp)).radix_pos
      rw [pathBits_append]
      have hlast : st.pathBits [last] = (st.nodes last.node).ignoreBits.toNat +
        (st.nodes last.node).radixBits.toNat := by simp [pathBits, levelBits]
      omega
    rw [pathBits_cons] at hdepth
    have hunmet : (st.nodes level.node).calculateUsedBits used ≠ depth := by
      intro heq
      rw [← heq, hnew] at hdepth
      omega
    have hnext : (st.slots (.node level.node level.index)).component =
        some (.node ((front ++ last :: rest).head (by simp)).node) := by
      have hchain := hpath.2
      cases front with
      | nil => exact (List.isChain_cons_cons.mp hchain).1
      | cons next front => exact (List.isChain_cons_cons.mp hchain).1
    have htail := hcarries.tail hpath.1 hused hlow
    rw [← hnew] at htail
    simp only [List.head_cons, traverseSlot, retrieveSlot, (hpath.1 level (by simp)).hasSlots,
      if_true, hindex, hunmet, if_false, hnext]
    apply ih ⟨fun other hother => hpath.1 other (by simp [hother]), hpath.2.tail⟩
    · rw [hnew]
      omega
    · rw [hnew]
      omega
    · rw [pathBits_cons] at hlow
      rw [hnew]
      have hsame : 64 - (used.toNat + st.levelBits level) - st.pathBits (front ++ last :: rest) =
          64 - used.toNat - (st.levelBits level + st.pathBits (front ++ last :: rest)) := by omega
      rwa [hsame]
    · exact htail
    · rw [hnew, hdepth]
      omega
    · simp only [List.length_cons] at hfuel
      omega

theorem length_le_pathBits (hlevels : ∀ level ∈ levels, st.InRange level) :
    levels.length ≤ st.pathBits levels := by
  induction levels with
  | nil => simp
  | cons level levels ih =>
    have hradix := (hlevels level (by simp)).radix_pos
    have hrest := ih fun other hother => hlevels other (by simp [hother])
    rw [pathBits_cons, levelBits, List.length_cons]
    omega

/-- A descriptor resolves to the slot at the depth it says, for every path and every value of the
bits that the Nodes ignore and of the bits below the path. -/
theorem traverseSlot_descriptor (st : CapState σ) (front rest : List Level) (last : Level)
    (low : Nat) (hpath : st.IsPath (front ++ last :: rest))
    (hbits : 8 + st.pathBits (front ++ last :: rest) ≤ 64)
    (hlow : low < 2 ^ (56 - st.pathBits (front ++ last :: rest))) :
    st.traverseSlot traverseFuel (.node ((front ++ last :: rest).head (by simp)).node)
        (st.descriptor (st.pathBits (front ++ [last])) low (front ++ last :: rest))
        (extractDepth
          (st.descriptor (st.pathBits (front ++ [last])) low (front ++ last :: rest)))
        Node.byteBits =
      .ok (.node last.node last.index) := by
  have hlength := length_le_pathBits hpath.1
  have hdepth : st.pathBits (front ++ [last]) ≤ st.pathBits (front ++ last :: rest) := by
    rw [List.append_cons front last rest, pathBits_append (front ++ [last])]
    exact Nat.le_add_right _ _
  have hfields := pathFields_lt hpath.1 (show st.pathBits (front ++ last :: rest) ≤ 56 by omega) hlow
  generalize hsaid : st.pathBits (front ++ [last]) = depth at hdepth ⊢
  have hword : (st.descriptor depth low (front ++ last :: rest)).toNat =
      depth * 2 ^ 56 + st.pathFields low (front ++ last :: rest) 56 := by
    rw [descriptor, BitVec.toNat_ofNat]
    omega
  generalize st.descriptor depth low (front ++ last :: rest) = word at hword ⊢
  have hextract : (extractDepth word).toNat = 8 + depth := by
    rw [extractDepth, BitVec.toNat_add, BitVec.toNat_and, BitVec.toNat_ushiftRight]
    change ((word.toNat >>> 56 &&& 2 ^ 8 - 1) + 8) % 2 ^ 64 = _
    rw [Nat.and_two_pow_sub_one_eq_mod, Nat.shiftRight_eq_div_pow, hword]
    omega
  apply traverseSlot_of_carries front hpath
  · exact hbits
  · decide
  · exact hlow
  · change word.toNat % 2 ^ 56 = st.pathFields low (front ++ last :: rest) 56
    rw [hword]
    omega
  · rw [hextract, hsaid]
    rfl
  · rw [List.length_append, List.length_cons] at hlength
    unfold traverseFuel
    omega

end CapState

/-- Two Nodes of four slots; the second slot of the first one names the second. -/
def twoNodes : CapState Unit where
  slots id :=
    if id = .node 0x2000 1 then
      { component := some (.node 0x3000), type := .node, rights := Slot.all }
    else Slot.init
  nodes address :=
    if address = 0x2000 ∨ address = 0x3000 then
      { ignoreBits := 3, radixBits := 2, hasSlots := true }
    else {}
  slotCount := 8
  buffer _ := none
  bindedProcess _ := none
  irqUsed _ := false
  objects := ()

theorem traverseSlot_descriptor_twoNodes :
    twoNodes.descriptor 10 0x1234 [⟨0x2000, 5, 1⟩, ⟨0x3000, 6, 2⟩] = 0x0aae800000001234 ∧
      twoNodes.traverseSlot CapState.traverseFuel (.node 0x2000) 0x0aae800000001234 18
        Node.byteBits = .ok (.node 0x3000 2) := by
  have hdescriptor : twoNodes.descriptor 10 0x1234 [⟨0x2000, 5, 1⟩, ⟨0x3000, 6, 2⟩] =
      0x0aae800000001234 := by decide
  have hpath : twoNodes.IsPath [⟨0x2000, 5, 1⟩, ⟨0x3000, 6, 2⟩] := by
    refine ⟨?_, ?_⟩
    · intro level hlevel
      simp only [List.mem_cons, List.not_mem_nil, or_false] at hlevel
      rcases hlevel with rfl | rfl
      · exact ⟨by decide, by decide, by decide, by decide⟩
      · exact ⟨by decide, by decide, by decide, by decide⟩
    · exact List.isChain_cons_cons.mpr ⟨by decide, List.isChain_singleton _⟩
  have hfound := CapState.traverseSlot_descriptor twoNodes [⟨0x2000, 5, 1⟩] [] ⟨0x3000, 6, 2⟩
    0x1234 hpath (by decide) (by decide)
  have hbits : twoNodes.pathBits ([⟨0x2000, 5, 1⟩] ++ [⟨0x3000, 6, 2⟩]) = 10 := by decide
  rw [hbits] at hfound
  simp only [List.cons_append, List.nil_append] at hfound
  rw [hdescriptor] at hfound
  exact ⟨hdescriptor, hfound⟩

end A9N.Kernel
