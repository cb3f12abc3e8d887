import ClusterGate.Proofs.Domain.Tables
import ClusterGate.Proofs.Outcome
import ClusterGate.Request.Limits

/-!
# Capitals in the ASCII form of a name

The ASCII form of a domain name has no capitals. In a plain name they are
lowered one by one. In any other name they are mapped away, and composing
brings none back: where the composed form is ASCII, nothing was composed.
-/

namespace ClusterGate.Domain

open Text (TableEntry)

/-! ## Capital letters -/

theorem toLower_of_not_capital {c : Char} (h : isCapital c.toNat = false) :
    c.toLower = c := by
  refine dif_neg fun ⟨hlow, hhigh⟩ => ?_
  have hlow : 0x41 ≤ c.toNat := UInt32.le_iff_toNat_le.mp hlow
  have hhigh : c.toNat ≤ 0x5A := UInt32.le_iff_toNat_le.mp hhigh
  simp [isCapital, hlow, hhigh] at h

theorem not_capital_toLower (c : Char) : isCapital c.toLower.toNat = false := by
  have hall : ∀ n ≤ 0x5A, isCapital (Char.ofNat n).toLower.toNat = false := by
    decide
  by_cases h : c.toNat ≤ 0x5A
  · have hc := hall c.toNat h
    rwa [Char.ofNat_toNat] at hc
  · have hcapital : isCapital c.toNat = false := by
      rw [isCapital, decide_eq_false h, Bool.and_false]
    rw [toLower_of_not_capital hcapital, hcapital]

theorem isCapital_ofNat {n : Nat} (h : isCapital n = false) :
    isCapital (Char.ofNat n).toNat = false := by
  by_cases hvalid : n.isValidChar
  · rw [Char.ofNat, dif_pos hvalid]
    exact h
  · rw [Char.ofNat, dif_neg hvalid]
    rfl

/-! ## Mapping -/

/-- Something stands for every capital. -/
theorem mappingTable_covers_capital {n : Nat} (h : isCapital n = true) :
    ∃ e ∈ mappingTable, e.covers n = true := by
  obtain ⟨e, he, hcovers⟩ := List.any_eq_true.mp coversCapitals_letterMappings
  simp only [coversCapitals, isCapital, Bool.and_eq_true, decide_eq_true_iff,
    beq_iff_eq] at h hcovers
  refine ⟨e, by simp [mappingTable, he], ?_⟩
  simp only [TableEntry.covers, hcovers.2, Nat.mod_one, Bool.and_eq_true,
    decide_eq_true_iff, beq_self_eq_true, and_true]
  omega

/-- What stands for a code point holds no capital. -/
theorem not_capital_of_mem_replacement {e : TableEntry} {n : Nat}
    (he : e ∈ mappingTable) (hn : e.covers n = true) :
    ∀ c ∈ e.replacement n, isCapital c.toNat = false := by
  have hspares := sparesCapitals_mappingTable e he
  have hrange : e.first ≤ n ∧ n ≤ e.last := by
    simp only [TableEntry.covers, Bool.and_eq_true, decide_eq_true_iff] at hn
    exact hn.1
  intro c hc
  rw [sparesCapitals] at hspares
  rw [TableEntry.replacement] at hc
  split at hspares
  · next target hvalue =>
      rw [hvalue] at hc
      obtain rfl := List.mem_singleton.mp hc
      refine isCapital_ofNat ?_
      simp only [Bool.or_eq_true, decide_eq_true_iff] at hspares
      simp only [isCapital, Bool.and_eq_false_iff, decide_eq_false_iff_not]
      omega
  · next hvalue =>
      rw [hvalue] at hc
      cases hc
  · next hmark hnil =>
      split at hc
      · next target hvalue => exact absurd hvalue (hmark target)
      · next hvalue => exact absurd hvalue hnil
      · obtain ⟨code, hcode, rfl⟩ := List.mem_map.mp hc
        rw [List.all_eq_true] at hspares
        exact isCapital_ofNat (by simpa using hspares code hcode)

/-- No character is mapped to a capital. -/
theorem not_capital_of_mapChar? {c : Char} {mapped : List Char}
    (h : mapChar? c = some mapped) :
    ∀ d ∈ mapped, isCapital d.toNat = false := by
  unfold mapChar? at h
  split at h
  · cases h
  split at h
  · next e hfind =>
      obtain rfl := Option.some.inj h
      have hcovers := List.find?_some hfind
      exact not_capital_of_mem_replacement
        (List.mem_of_find?_eq_some hfind) hcovers
  · next hfind =>
      obtain rfl := Option.some.inj h
      intro d hd
      obtain rfl := List.mem_singleton.mp hd
      refine Bool.eq_false_iff.mpr fun hcapital => ?_
      obtain ⟨e, he, hcovers⟩ := mappingTable_covers_capital hcapital
      exact List.find?_eq_none.mp hfind e he hcovers

/-! ## Composing -/

theorem pairs_outsideAscii {p : Nat × Nat × Nat} (h : p ∈ pairs) :
    0x80 ≤ p.1 ∧ 0x80 ≤ p.2.2 := by
  unfold pairs at h
  obtain ⟨e, he, hp⟩ := List.mem_flatMap.mp h
  obtain ⟨pair, hpair, rfl⟩ := List.mem_map.mp hp
  have hentry := List.all_eq_true.mp outsideAscii_pairTable e he
  rw [pairsOutsideAscii, Bool.and_eq_true, decide_eq_true_iff, List.all_eq_true]
    at hentry
  exact ⟨hentry.1, of_decide_eq_true (hentry.2 pair hpair)⟩

theorem composePair?_outsideAscii {a b n : Nat}
    (h : composePair? a b = some n) : 0x80 ≤ n := by
  unfold composePair? at h
  split at h
  · next joined hjoined =>
      obtain rfl := Option.some.inj h
      unfold composeHangul? at hjoined
      split at hjoined
      · obtain rfl := Option.some.inj hjoined
        rw [hangulBase]
        omega
      split at hjoined
      · next hopen =>
          obtain rfl := Option.some.inj hjoined
          have hbase := hopen.1
          rw [isHangul, Bool.and_eq_true, decide_eq_true_iff, hangulBase]
            at hbase
          omega
      · cases hjoined
  · obtain ⟨p, hp, rfl⟩ := Option.map_eq_some_iff.mp h
    exact (pairs_outsideAscii (List.mem_of_find?_eq_some hp)).2

/-- A character that is taken apart into ASCII is not taken apart. -/
theorem decomposeChar_eq_self {depth n : Nat}
    (h : ∀ m ∈ decomposeChar depth n, m < 0x80) :
    decomposeChar depth n = [n] := by
  cases depth with
  | zero => rfl
  | succ depth =>
      rw [decomposeChar] at h ⊢
      by_cases hhangul : isHangul n = true
      · rw [if_pos hhangul] at h
        have hlead : leadBase + (n - hangulBase) / (vowelCount * tailCount) ∈
            hangulParts n := by
          simp only [hangulParts]
          split <;> exact List.mem_cons_self
        have hlt : leadBase < 0x80 :=
          Nat.lt_of_le_of_lt (Nat.le_add_right _ _) (h _ hlead)
        exact absurd hlt (by decide)
      · rw [if_neg hhangul] at h ⊢
        cases hfind : pairs.find? fun p => p.2.2 == n with
        | none => rfl
        | some p =>
            rw [hfind] at h
            have hb :=
              h p.1 (List.mem_append_right _ (List.mem_singleton_self p.1))
            have hout :=
              (pairs_outsideAscii (List.mem_of_find?_eq_some hfind)).1
            omega

theorem perm_insertMark (n : Nat) (acc : List Nat) :
    (insertMark n acc).Perm (n :: acc) := by
  induction acc with
  | nil => exact .refl _
  | cons m rest ih =>
      rw [insertMark]
      split
      · exact (ih.cons m).trans (.swap n m rest)
      · exact .refl _

theorem perm_orderReversed (codes : List Nat) :
    (orderReversed codes).Perm codes := by
  have hfold : ∀ codes acc : List Nat,
      (codes.foldl (fun acc n => insertMark n acc) acc).Perm
        (codes ++ acc) := by
    intro codes
    induction codes with
    | nil => exact fun _ => .refl _
    | cons n rest ih =>
        intro acc
        exact (ih _).trans (((perm_insertMark n acc).append_left rest).trans
          List.perm_middle)
  rw [orderReversed]
  simpa only [List.append_nil] using hfold codes []

/-- Where joining marks leaves nothing but ASCII, it has joined nothing. -/
theorem joinMarks_eq {rest : List Nat} :
    ∀ {starter : Option Nat} {held : List Nat},
      (∀ n ∈ joinMarks starter held rest, n < 0x80) →
        joinMarks starter held rest =
          starter.toList ++ held.reverse ++ rest := by
  induction rest with
  | nil =>
      intro starter held _
      rw [joinMarks, List.append_nil]
  | cons n rest ih =>
      intro starter held h
      unfold joinMarks at h ⊢
      dsimp only at h ⊢
      split at h
      · next joined hjoined =>
          have hall := ih h
          have hjoinedMem : joined ∈ joinMarks (some joined) held rest := by
            rw [hall]
            simp
          obtain ⟨s, -, hpair⟩ := Option.bind_eq_some_iff.mp hjoined
          have hlt := h joined hjoinedMem
          have hout :=
            composePair?_outsideAscii (Option.ite_none_right_eq_some.mp hpair).2
          omega
      · by_cases hstarter : combiningClass n = 0
        · rw [if_pos hstarter] at h ⊢
          rw [ih fun m hm => h m (List.mem_append_right _ hm)]
          simp
        · rw [if_neg hstarter] at h ⊢
          rw [ih h]
          simp

theorem toNat_ofNat {n : Nat} (h : Char.ofNat n ≠ '\x00') :
    (Char.ofNat n).toNat = n := by
  by_cases hvalid : n.isValidChar
  · rw [Char.ofNat, dif_pos hvalid]
    rfl
  · rw [Char.ofNat, dif_neg hvalid] at h
    exact absurd rfl h

/-- Where the composed form is ASCII, it holds nothing new. -/
theorem mem_of_mem_compose {text : List Char}
    (h : ∀ c ∈ compose text, c.toNat < 0x80 ∧ c ≠ '\x00') :
    ∀ c ∈ compose text, c ∈ text := by
  simp only [compose] at h ⊢
  generalize hcodes :
    (text.flatMap fun c => decomposeChar 4 c.toNat) = codes at h ⊢
  have hjoined :
      ∀ n ∈ joinMarks none [] (orderReversed codes).reverse, n < 0x80 := by
    intro n hn
    obtain ⟨hlt, hne⟩ := h _ (List.mem_map_of_mem hn)
    rwa [toNat_ofNat hne] at hlt
  have hsame := joinMarks_eq hjoined
  simp only [Option.toList, List.reverse_nil, List.nil_append] at hsame
  rw [hsame] at hjoined ⊢
  have hmem : ∀ n, n ∈ (orderReversed codes).reverse ↔ n ∈ codes := fun n =>
    List.mem_reverse.trans (perm_orderReversed codes).mem_iff
  intro c hc
  obtain ⟨n, hn, rfl⟩ := List.mem_map.mp hc
  rw [hmem, ← hcodes] at hn
  obtain ⟨d, hd, hnd⟩ := List.mem_flatMap.mp hn
  have hself : decomposeChar 4 d.toNat = [d.toNat] := by
    refine decomposeChar_eq_self fun m hm => hjoined m ((hmem m).mpr ?_)
    rw [← hcodes]
    exact List.mem_flatMap.mpr ⟨d, hd, hm⟩
  rw [hself, List.mem_singleton] at hnd
  rwa [hnd, Char.ofNat_toNat]

/-- A mapped name that is ASCII has no capitals. -/
theorem not_capital_of_mapName? {name mapped : List Char}
    (h : mapName? name = some mapped)
    (hascii : ∀ c ∈ mapped, c.toNat < 0x80 ∧ c ≠ '\x00') :
    ∀ c ∈ mapped, isCapital c.toNat = false := by
  obtain ⟨parts, hparts, rfl⟩ := Option.map_eq_some_iff.mp h
  intro c hc
  obtain ⟨part, hpart, hcpart⟩ :=
    List.mem_flatten.mp (mem_of_mem_compose hascii c hc)
  obtain ⟨source, -, hsource⟩ := (mem_of_mapM_eq_some hparts).mp hpart
  exact not_capital_of_mapChar? hsource c hcpart

/-! ## ASCII forms -/

theorem toLower_eq_self {c d : Char} (h : c.toLower = d) (hd : 0x80 ≤ c.toNat) :
    c = d := by
  rw [← h, toLower_of_not_capital]
  rw [isCapital, Bool.and_eq_false_iff, decide_eq_false_iff_not,
    decide_eq_false_iff_not]
  omega

/-- A name that is `localhost` but for capitals is ASCII. -/
theorem ascii_of_lower {name : List Char}
    (h : lower name = supportedHost.toList) :
    ∀ c ∈ name, c.toNat < 0x80 ∧ c ≠ '\x00' := by
  have hall : ∀ d ∈ supportedHost.toList, d.toNat < 0x80 ∧ d ≠ '\x00' := by
    simp [supportedHost]
  intro c hc
  have hd : c.toLower ∈ supportedHost.toList := h ▸ List.mem_map_of_mem hc
  obtain ⟨hlt, hne⟩ := hall _ hd
  by_cases hc : c.toNat < 0x80
  · refine ⟨hc, ?_⟩
    rintro rfl
    exact hne rfl
  · rw [← toLower_eq_self rfl (Nat.le_of_not_lt hc)] at hlt
    exact absurd hlt hc

theorem lower_eq_self {name : List Char}
    (h : ∀ c ∈ name, isCapital c.toNat = false) :
    lower name = name := by
  rw [lower, List.map_congr_left fun c hc => toLower_of_not_capital (h c hc),
    List.map_id']

/-- The one label of a name without dots is in ASCII as it is as text, or
it has the mark of Punycode. -/
theorem labelForms?_ascii {label text ascii : List Char}
    (h : labelForms? label = some (text, ascii))
    (hmark : ¬ punycodeMark <+: ascii) : ascii = label := by
  unfold labelForms? at h
  split at h
  · next hmarked =>
      obtain ⟨_, -, hforms⟩ := Option.map_eq_some_iff.mp h
      obtain ⟨-, rfl⟩ := Prod.mk.inj hforms
      exact absurd (List.isPrefixOf_iff_prefix.mp hmarked) hmark
  split at h
  · obtain ⟨-, rfl⟩ := Prod.mk.inj (Option.some.inj h)
    rfl
  split at h
  · cases h
  · obtain ⟨-, rfl⟩ := Prod.mk.inj (Option.some.inj h)
    exact absurd (List.prefix_append _ _) hmark

theorem toAsciiByTables?_supported {name ascii : List Char}
    (h : toAsciiByTables? name = some ascii)
    (hlower : lower ascii = supportedHost.toList) :
    ascii = supportedHost.toList := by
  have hdot : '.' ∉ ascii := by
    intro hmem
    have hlow : '.' ∈ lower ascii := List.mem_map_of_mem hmem
    rw [hlower] at hlow
    exact absurd hlow (by decide)
  have hmark : ¬ punycodeMark <+: ascii := by
    rintro ⟨rest, rfl⟩
    rw [lower, List.map_append] at hlower
    exact absurd (List.cons.inj hlower).1 (by decide)
  obtain ⟨mapped, hmapped, h⟩ := Option.bind_eq_some_iff.mp h
  obtain ⟨forms, hforms, h⟩ := Option.bind_eq_some_iff.mp h
  split at h
  · cases h
  obtain rfl := Option.some.inj h
  have hwhole := Text.joinWith_splitAt '.' mapped
  cases hpieces : Text.splitAt '.' mapped with
  | nil => exact absurd hpieces (Text.splitWhen_ne_nil _ _)
  | cons label rest =>
      rw [hpieces, List.mapM_cons] at hforms
      obtain ⟨form, hform, hforms⟩ := Option.bind_eq_some_iff.mp hforms
      obtain ⟨others, hothers, hforms⟩ := Option.bind_eq_some_iff.mp hforms
      obtain rfl := Option.some.inj hforms
      cases rest with
      | nil =>
          obtain rfl := Option.some.inj hothers
          rw [hpieces] at hwhole
          obtain rfl : label = mapped := hwhole
          obtain rfl : form.2 = label := labelForms?_ascii hform hmark
          have hlow :=
            lower_eq_self
              (not_capital_of_mapName? hmapped (ascii_of_lower hlower))
          exact hlow.symm.trans hlower
      | cons next rest =>
          rw [List.mapM_cons] at hothers
          obtain ⟨second, -, hothers⟩ := Option.bind_eq_some_iff.mp hothers
          obtain ⟨more, -, hothers⟩ := Option.bind_eq_some_iff.mp hothers
          obtain rfl := Option.some.inj hothers
          exact absurd (List.mem_append_right _ List.mem_cons_self) hdot

/-- **One spelling of the supported host.** A name whose ASCII form is
`localhost` but for capitals has `localhost` for its ASCII form. -/
theorem toAscii?_supported {name ascii : List Char}
    (h : toAscii? name = some ascii)
    (hlower : lower ascii = supportedHost.toList) :
    ascii = supportedHost.toList := by
  unfold toAscii? at h
  split at h
  · cases h
  split at h
  · split at h
    · cases h
    · obtain rfl := Option.some.inj h
      rw [← hlower]
      refine (lower_eq_self fun c hc => ?_).symm
      obtain ⟨d, -, rfl⟩ := List.mem_map.mp hc
      exact not_capital_toLower d
  · exact toAsciiByTables?_supported h hlower

end ClusterGate.Domain
