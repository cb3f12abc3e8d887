import ClusterGate.Proofs.Uri.Path

/-!
# Clean paths

A clean segment is one that a path neither drops, nor cuts, nor decodes to
something else. Resolving a path of clean segments only escapes it
(`ofText_of_clean`), and decoding what was escaped gives the path back
(`decode_ofText_of_clean`), whatever characters it has otherwise.
-/

namespace ClusterGate.UriPath

variable {special : Bool} {segment : List Char} {all : List (List Char)}

/-- Characters that no clean segment has: separators, the one that escapes
begin with, and those that are dropped. -/
def uncleanCharacters : List Char := ['/', '\\', '%', '\t', '\n', '\r']

structure CleanSegment (segment : List Char) : Prop where
  ne_nil : segment ≠ []
  ne_dot : segment ≠ ['.']
  ne_doubleDot : segment ≠ ['.', '.']
  chars : ∀ c ∈ segment, c ∉ uncleanCharacters

instance : DecidablePred CleanSegment := fun segment =>
  decidable_of_iff
    (segment ≠ [] ∧ segment ≠ ['.'] ∧ segment ≠ ['.', '.'] ∧
      (segment.all fun c => decide (c ∉ uncleanCharacters)) = true)
    ⟨fun ⟨hne, hdot, hdouble, hchars⟩ =>
      ⟨hne, hdot, hdouble, Percent.forall_mem_of_all hchars⟩,
        fun h => ⟨h.ne_nil, h.ne_dot, h.ne_doubleDot,
          List.all_eq_true.mpr fun c hc => decide_eq_true (h.chars c hc)⟩⟩

theorem CleanSegment.isSlash (h : CleanSegment segment) :
    ∀ c ∈ segment, UriPath.isSlash special c = false := by
  intro c hc
  refine Bool.eq_false_iff.mpr fun hslash => h.chars c hc ?_
  simp only [UriPath.isSlash, Bool.or_eq_true, Bool.and_eq_true, beq_iff_eq]
    at hslash
  rcases hslash with rfl | ⟨-, rfl⟩ <;> decide

theorem CleanSegment.percent (h : CleanSegment segment) : '%' ∉ segment :=
  fun hmem => h.chars '%' hmem (by decide)

/-! ## Spellings of dot segments -/

/-- What a character was before it was put in lower case. -/
theorem eq_or_eq_of_toLower {c d : Char} (h : c.toLower = d) :
    c = d ∨ c = Char.ofNat (d.toNat - 0x20) ∧ 0x61 ≤ d.toNat := by
  have hall : ∀ n ≤ 0x5A, 0x41 ≤ n →
      Char.ofNat n = Char.ofNat ((Char.ofNat n).toLower.toNat - 0x20) ∧
        0x61 ≤ (Char.ofNat n).toLower.toNat := by decide
  by_cases hcapital : 0x41 ≤ c.toNat ∧ c.toNat ≤ 0x5A
  · have hc := hall c.toNat hcapital.2 hcapital.1
    rw [Char.ofNat_toNat, h] at hc
    exact .inr hc
  · left
    rw [← h]
    symm
    refine dif_neg fun ⟨hlow, hhigh⟩ => hcapital ?_
    exact ⟨UInt32.le_iff_toNat_le.mp hlow, UInt32.le_iff_toNat_le.mp hhigh⟩

theorem eq_of_toLower {c d : Char} (h : c.toLower = d) (hd : d.toNat < 0x61) :
    c = d :=
  (eq_or_eq_of_toLower h).resolve_right fun hcapital =>
    Nat.not_le.mpr hd hcapital.2

/-- A dot is written as it is or as its escape. -/
theorem mem_of_isDot (h : isDot segment = true) :
    segment ∈ [".".toList, "%2e".toList, "%2E".toList] := by
  simp only [isDot, List.contains_iff_mem, List.mem_cons,
    List.not_mem_nil, or_false, ← String.toList_inj, String.toList_ofList] at h
  rcases h with h | h
  · obtain ⟨a, rest, rfl, ha, hrest⟩ := List.map_eq_cons_iff.mp h
    obtain rfl := List.map_eq_nil_iff.mp hrest
    obtain rfl := eq_of_toLower ha (by decide)
    decide
  · obtain ⟨a, rest, rfl, ha, h⟩ := List.map_eq_cons_iff.mp h
    obtain ⟨b, rest, rfl, hb, h⟩ := List.map_eq_cons_iff.mp h
    obtain ⟨c, rest, rfl, hc, hrest⟩ := List.map_eq_cons_iff.mp h
    obtain rfl := List.map_eq_nil_iff.mp hrest
    obtain rfl := eq_of_toLower ha (by decide)
    obtain rfl := eq_of_toLower hb (by decide)
    obtain rfl | ⟨rfl, -⟩ := eq_or_eq_of_toLower hc <;> decide

theorem exists_of_isDoubleDot (h : isDoubleDot segment = true) :
    ∃ first second, segment = first ++ second ∧ isDot first = true ∧
      isDot second = true := by
  have hpairs :
      ∀ pair ∈ ["..", ".%2e", "%2e.", "%2e%2e"], ∃ first ∈ [".", "%2e"],
        ∃ second ∈ [".", "%2e"], pair = first ++ second := by decide
  obtain ⟨first, hfirst, second, hsecond, hpair⟩ :=
    hpairs _ (List.contains_iff_mem.mp h)
  have happend : segment.map Char.toLower = first.toList ++ second.toList := by
    rw [← String.toList_append, ← hpair, String.toList_ofList]
  obtain ⟨before, after, rfl, hbefore, hafter⟩ :=
    List.map_eq_append_iff.mp happend
  refine ⟨before, after, rfl, ?_, ?_⟩
  · rw [isDot, hbefore, String.ofList_toList]
    exact List.contains_iff_mem.mpr hfirst
  · rw [isDot, hafter, String.ofList_toList]
    exact List.contains_iff_mem.mpr hsecond

theorem decode_of_isDot (h : isDot segment = true) (rest : List Char) :
    Percent.decode (segment ++ rest) = 0x2E :: Percent.decode rest := by
  have hall := mem_of_isDot h
  simp only [List.mem_cons, List.not_mem_nil, or_false] at hall
  rcases hall with rfl | rfl | rfl
  · exact Percent.decode_cons (by decide)
  · rfl
  · rfl

/-! ## Escaping clean segments -/

theorem CleanSegment.decode_encode (h : CleanSegment segment) :
    Percent.decode (Percent.encode Percent.path segment) =
      Utf8.encode segment :=
  Percent.decode_encode h.percent

/-- **Clean segments.** Escaping a clean segment makes a resolved one. -/
theorem CleanSegment.resolved (h : CleanSegment segment) :
    Resolved special (Percent.encode Percent.path segment) := by
  -- Both decode alike, so a segment that escaping made a dot segment was one
  -- before.
  refine ⟨escaped_encode h.isSlash, Bool.eq_false_iff.mpr
    fun hdot => h.ne_dot ?_,
      Bool.eq_false_iff.mpr fun hdouble => h.ne_doubleDot ?_⟩
  · refine Utf8.encode_injective ?_
    have hbytes := decode_of_isDot hdot []
    rw [List.append_nil, h.decode_encode] at hbytes
    exact hbytes
  · refine Utf8.encode_injective ?_
    obtain ⟨first, second, happend, hfirst, hsecond⟩ :=
      exists_of_isDoubleDot hdouble
    have hbytes := decode_of_isDot hfirst second
    rw [← happend, h.decode_encode, ← List.append_nil second,
      decode_of_isDot hsecond] at hbytes
    exact hbytes

/-! ## Whole paths -/

theorem CleanSegment.encode_ne_nil (h : CleanSegment segment) :
    Percent.encode Percent.path segment ≠ [] := by
  intro hnil
  have hbytes := h.decode_encode
  rw [hnil] at hbytes
  exact h.ne_nil (Utf8.encode_injective hbytes.symm)

theorem encode_render (all : List (List Char)) :
    Percent.encode Percent.path (render all) =
      render (all.map (Percent.encode Percent.path)) := by
  induction all with
  | nil => rfl
  | cons segment all ih =>
      rw [render_cons, Percent.encode, List.flatMap_cons, List.flatMap_append]
      exact congrArg
        (fun rest => '/' :: (Percent.encode Percent.path segment ++ rest)) ih

/-- **Clean paths.** Of a path of clean segments only characters are escaped. -/
theorem ofText_of_clean (hne : all ≠ []) (h : ∀ s ∈ all, CleanSegment s) :
    ofText special (render all) =
      String.ofList (Percent.encode Percent.path (render all)) := by
  rw [ofText, segments_render_eq_map hne (fun s hs => (h s hs).isSlash)
    fun s hs => (h s hs).resolved, encode_render]

theorem percent_notMem_render (h : ∀ s ∈ all, CleanSegment s) :
    '%' ∉ render all := by
  intro hmem
  obtain ⟨s, hs, hc⟩ := List.mem_flatMap.mp hmem
  exact (h s hs).percent ((List.mem_cons.mp hc).resolve_left (by decide))

theorem decode_ofText_of_clean (hne : all ≠ [])
    (h : ∀ s ∈ all, CleanSegment s) :
    Utf8.decode (Percent.decode (ofText special (render all)).toList) =
      .ok (render all) := by
  rw [ofText_of_clean hne h, String.toList_ofList,
    Percent.decode_encode (percent_notMem_render h), Utf8.decode_encode]

end ClusterGate.UriPath
