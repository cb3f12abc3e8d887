import ClusterGate.Proofs.Outcome
import ClusterGate.Proofs.Uri.Render

/-!
# Texts of hosts

A text that describes a host holds nothing that would end the host in a
URI: no separator, no space or control, and no colon outside brackets.
Written behind a supported scheme it is therefore read as this host and as
nothing else (`Uri.parse_scheme_host`).
-/

namespace ClusterGate

/-! ## Addresses -/

namespace Ipv6

/-- The characters that addresses are written with. -/
def isAddressChar (c : Char) : Bool :=
  (Percent.hexValue? c).isSome || c == ':' || c == '.'

variable {text : List Char} {c : Char}

theorem isAddressChar_of_hexValue? (h : (Percent.hexValue? c).isSome = true) :
    isAddressChar c = true := by
  rw [isAddressChar, h]
  rfl

theorem isAddressChar_of_isDigit (h : c.isDigit = true) :
    isAddressChar c = true := by
  refine isAddressChar_of_hexValue? ?_
  have hrange : '0' ≤ c ∧ c ≤ '9' := by
    simpa [Char.isDigit, Char.le_def] using h
  rw [Percent.hexValue?, if_pos hrange]
  rfl

/-- What a group leaves unread is all that may be no digit. -/
theorem isAddressChar_of_readGroup {limit value v : Nat} {rest : List Char}
    (h : readGroup limit value text = (v, rest))
    (hrest : ∀ c ∈ rest, isAddressChar c = true) :
    ∀ c ∈ text, isAddressChar c = true := by
  fun_induction readGroup limit value text with
  | case1 value rest =>
      obtain ⟨-, rfl⟩ := Prod.mk.inj h
      exact hrest
  | case2 limit value c text d hd ih =>
      exact List.forall_mem_cons.mpr
        ⟨isAddressChar_of_hexValue? (by rw [hd]; rfl), ih h⟩
  | case3 limit value c text hnone =>
      obtain ⟨-, rfl⟩ := Prod.mk.inj h
      exact hrest
  | case4 => exact List.forall_mem_nil _

theorem isDigit_of_readByte? {n : Nat} (h : readByte? text = some n) :
    ∀ c ∈ text, c.isDigit = true := by
  unfold readByte? at h
  split at h
  · cases h
  · cases h
  · split at h
    · next hdigits => exact List.all_eq_true.mp hdigits.2
    · cases h

theorem isAddressChar_of_readEmbedded? {pair : Nat × Nat}
    (h : readEmbedded? text = some pair) :
    ∀ c ∈ text, isAddressChar c = true := by
  intro c hc
  obtain ⟨bytes, hbytes, -⟩ := Option.bind_eq_some_iff.mp h
  rw [← Text.joinWith_splitAt '.' text] at hc
  obtain rfl | ⟨piece, hpiece, hc⟩ := Query.mem_joinWith hc
  · rfl
  · obtain ⟨n, hn⟩ := exists_of_mapM_eq_some hbytes piece hpiece
    exact isAddressChar_of_isDigit (isDigit_of_readByte? hn c hc)

theorem isAddressChar_of_readGroups? {fuel : Nat} {p q : Partial}
    (h : readGroups? fuel p text = some q) :
    ∀ c ∈ text, isAddressChar c = true := by
  fun_induction readGroups? fuel p text with
  | case1 => exact List.forall_mem_nil _
  | case4 fuel p rest hfree ih => exact List.forall_mem_cons.mpr ⟨rfl, ih h⟩
  | case6 fuel p text hne hcolon hroom value hgroup =>
      exact isAddressChar_of_readGroup hgroup (List.forall_mem_nil _)
  | case8 fuel p text hne hcolon hroom value rest hmore hgroup ih =>
      exact isAddressChar_of_readGroup hgroup
        (List.forall_mem_cons.mpr ⟨rfl, ih h⟩)
  | case10 fuel p text hne hcolon hroom value tail hgroup hfits =>
      rw [if_neg hfits] at h
      obtain ⟨pair, hpair, -⟩ := Option.map_eq_some_iff.mp h
      exact isAddressChar_of_readEmbedded? hpair
  | case9 fuel p text hne hcolon hroom value tail hgroup hfits =>
      rw [if_pos hfits] at h
      cases h
  | case2 | case3 | case5 | case7 | case11 => cases h

theorem isAddressChar_of_read? {groups : List Nat}
    (h : read? text = some groups) :
    ∀ c ∈ text, isAddressChar c = true := by
  unfold read? at h
  split at h
  · cases h
  · cases h
  · obtain ⟨p, hp, -⟩ := Option.bind_eq_some_iff.mp h
    exact List.forall_mem_cons.mpr
      ⟨rfl, List.forall_mem_cons.mpr ⟨rfl, isAddressChar_of_readGroups? hp⟩⟩
  · cases h
  · obtain ⟨p, hp, -⟩ := Option.bind_eq_some_iff.mp h
    exact isAddressChar_of_readGroups? hp

end Ipv6

/-! ## What a host may not hold -/

namespace Host

/-- Whether a character would end the host of a URI, or divide the authority
it stands in. -/
def divides (c : Char) : Bool :=
  Uri.isSpaceOrControl c || "/?#\\@".toList.contains c

variable {text : List Char} {host : Host} {c : Char}

theorem ascii_of_divides (h : divides c = true) : c.toNat < 0x80 := by
  have hall : ∀ c ∈ "/?#\\@".toList, c.toNat < 0x80 :=
    Percent.forall_mem_of_all (by decide)
  rw [divides, Bool.or_eq_true] at h
  rcases h with h | h
  · have hle : c.toNat ≤ 0x20 := of_decide_eq_true h
    omega
  · exact hall c (List.contains_iff_mem.mp h)

theorem divides_of_isAddressChar (h : Ipv6.isAddressChar c = true) :
    divides c = false := by
  have hall : ∀ n < 0x80, divides (Char.ofNat n) = true →
      Ipv6.isAddressChar (Char.ofNat n) = false := by decide
  refine Bool.eq_false_iff.mpr fun hdivides => ?_
  have hno := hall c.toNat (ascii_of_divides hdivides)
  rw [Char.ofNat_toNat, h] at hno
  cases hno hdivides

/-- A name has no character, escaped or not, that never belongs to one. -/
theorem forbidden_of_parseName (h : parseName text = .ok host) (hc : c ∈ text)
    (hascii : c.toNat < 0x80) (hpercent : c ≠ '%')
    (hdigit : Percent.hexValue? c = none) :
    (Domain.forbidden c && !Domain.joinable c) = false := by
  unfold parseName at h
  split at h
  · cases h
  next name hname =>
  have hbyte : UInt8.ofNat c.toNat ∈ Percent.decode text := by
    refine Percent.mem_decode hc hpercent hdigit _ ?_
    rw [Utf8.encodeChar, if_pos hascii]
    exact List.mem_singleton_self _
  have hvalue : (UInt8.ofNat c.toNat).toNat = c.toNat :=
    Utf8.toNat_ofNat (Nat.lt_trans hascii (by decide))
  have hmem : c ∈ name := by
    have hchar := Utf8.mem_of_decode hname hbyte (by rwa [hvalue])
    rwa [hvalue, Char.ofNat_toNat] at hchar
  split at h
  · cases h
  next hascii? =>
  refine Bool.eq_false_iff.mpr fun hforbidden => ?_
  rw [Domain.toAscii?, if_pos (List.any_eq_true.mpr ⟨c, hmem, hforbidden⟩)]
    at hascii?
  cases hascii?

theorem not_mem_of_parseName (h : parseName text = .ok host)
    (hdivides : divides c = true ∨ c = ':') :
    c ∉ text := by
  intro hc
  have hall : ∀ n < 0x80, (divides (Char.ofNat n) = true ∨ Char.ofNat n = ':') →
      Char.ofNat n ≠ '%' ∧ Percent.hexValue? (Char.ofNat n) = none ∧
        (Domain.forbidden (Char.ofNat n) && !Domain.joinable (Char.ofNat n)) =
          true := by decide
  have hascii : c.toNat < 0x80 := by
    rcases hdivides with hdivides | rfl
    · exact ascii_of_divides hdivides
    · decide
  have hchar := hall c.toNat hascii
  rw [Char.ofNat_toNat] at hchar
  obtain ⟨hpercent, hdigit, hforbidden⟩ := hchar hdivides
  rw [forbidden_of_parseName h hc hascii hpercent hdigit] at hforbidden
  cases hforbidden

/-- A bracketed host is an address between its brackets. -/
theorem exists_of_parseBracketed {rest : List Char}
    (h : parseBracketed rest = .ok host) :
    ∃ inner, rest = inner ++ [']'] ∧
      ∀ c ∈ inner, Ipv6.isAddressChar c = true := by
  unfold parseBracketed at h
  split at h
  · next hlast =>
      split at h
      · next groups hgroups =>
          obtain ⟨inner, rfl⟩ := List.getLast?_eq_some_iff.mp hlast
          rw [List.dropLast_concat] at hgroups
          exact ⟨inner, rfl, Ipv6.isAddressChar_of_read? hgroups⟩
      · cases h
  · cases h

/-- **Texts of hosts.** Nothing in the text of a host divides an authority. -/
theorem divides_of_parse (h : parse text = .ok host) :
    ∀ c ∈ text, divides c = false := by
  unfold parse at h
  split at h
  · next rest =>
      obtain ⟨inner, rfl, hinner⟩ := exists_of_parseBracketed h
      refine List.forall_mem_cons.mpr ⟨rfl, List.forall_mem_append.mpr ⟨?_, ?_⟩⟩
      · exact fun c hc => divides_of_isAddressChar (hinner c hc)
      · exact List.forall_mem_singleton.mpr rfl
  · exact fun c hc => Bool.eq_false_iff.mpr fun hdivides =>
      not_mem_of_parseName h (.inl hdivides) hc

theorem ne_nil_of_parse (h : parse text = .ok host) : text ≠ [] := by
  rintro rfl
  cases h

end Host

/-! ## Reading the authority -/

namespace Uri

variable {scheme : String} {text : List Char} {host : Host}

theorem takeHost_eq_self (h : ':' ∉ text) (inBrackets : Bool) :
    takeHost inBrackets text = text := by
  induction text generalizing inBrackets with
  | nil => rfl
  | cons c text ih =>
      obtain ⟨hc, hrest⟩ := List.ne_and_not_mem_of_not_mem_cons h
      have hcolon : (c == ':') = false := beq_eq_false_iff_ne.mpr (Ne.symm hc)
      rw [takeHost, hcolon, Bool.false_and, if_neg Bool.false_ne_true, ih hrest]

/-- In brackets a colon is as good as any other character. -/
theorem takeHost_brackets {inner : List Char} (h : ']' ∉ inner) :
    takeHost true (inner ++ [']']) = inner ++ [']'] := by
  induction inner with
  | nil => rfl
  | cons c inner ih =>
      obtain ⟨hc, hrest⟩ := List.ne_and_not_mem_of_not_mem_cons h
      have hclose : (c == ']') = false := beq_eq_false_iff_ne.mpr (Ne.symm hc)
      rw [List.cons_append, takeHost, hclose, Bool.not_true, Bool.and_false,
        if_neg Bool.false_ne_true, if_neg Bool.false_ne_true,
        ite_self, ih hrest]

theorem takeHost_of_parse (h : Host.parse text = .ok host) :
    takeHost false text = text := by
  unfold Host.parse at h
  split at h
  · next rest =>
      obtain ⟨inner, rfl, hinner⟩ := Host.exists_of_parseBracketed h
      have hclose : ']' ∉ inner :=
        fun hmem => absurd (hinner _ hmem) (by decide)
      exact congrArg ('[' :: ·) (takeHost_brackets hclose)
  · exact takeHost_eq_self (Host.not_mem_of_parseName h (.inr rfl)) false

theorem readHostPort_host (hscheme : scheme ∈ supportedSchemes)
    (h : Host.parse text = .ok host) :
    readHostPort scheme text = .ok (host, none, []) := by
  have hsome : text.isEmpty = false := by simpa using Host.ne_nil_of_parse h
  rw [readHostPort, kind_of_supported hscheme, takeHost_of_parse h,
    List.drop_length, hsome, h]
  rfl

theorem splitUserinfo_eq_none (h : '@' ∉ text) :
    splitUserinfo text = (none, text) := by
  have hall : text.reverse.takeWhile (· != '@') = text.reverse :=
    List.takeWhile_eq_self_iff.mpr fun c hc =>
      bne_iff_ne.mpr fun heq => h (heq ▸ List.mem_reverse.mp hc)
  rw [splitUserinfo, hall, List.reverse_reverse]
  exact if_pos rfl

/-- An authority that is a host is read as this host. -/
theorem readAuthority_host (hscheme : scheme ∈ supportedSchemes)
    (h : Host.parse text = .ok host) :
    readAuthority scheme text = .ok (⟨"", "", host, none⟩, []) := by
  have hdivides := Host.divides_of_parse h
  have hends : ∀ c ∈ text, endsAuthority true c = false := by
    intro c hc
    refine Bool.eq_false_iff.mpr fun hend => ?_
    have hno := hdivides c hc
    simp only [endsAuthority, Bool.true_and, Bool.or_eq_true,
      beq_iff_eq] at hend
    rcases hend with ((rfl | rfl) | rfl) | rfl <;> cases hno
  have hat : '@' ∉ text := fun hmem => absurd (hdivides _ hmem) (by decide)
  rw [readAuthority, kind_of_supported hscheme, beq_self_eq_true,
    splitAtFirst_of_forall hends]
  dsimp only
  rw [splitUserinfo_eq_none hat]
  dsimp only
  have hcredentials : readUserinfo ((none : Option (List Char)).getD []) =
      ("", "") := rfl
  rw [readHostPort_host hscheme h, hcredentials]
  exact bind_eq_ok.mpr ⟨_, rfl, if_neg (by simp)⟩

/-- **Hosts behind a scheme.** A text that describes a host is read as this
host behind a supported scheme, with no other part. -/
theorem parse_scheme_host {text : String} (hscheme : scheme ∈ supportedSchemes)
    (h : Host.parse text.toList = .ok host) :
    parse (scheme ++ "://" ++ text) =
      .ok ⟨scheme, "", "", some host, none, "/", none, none⟩ := by
  have hdivides := Host.divides_of_parse h
  have hchars : (scheme ++ "://" ++ text).toList =
      scheme.toList ++ ':' :: '/' :: '/' :: text.toList := by
    simp
  have hclean :
      ∀ c ∈ (scheme ++ "://" ++ text).toList, isSpaceOrControl c = false := by
    have hmark : ∀ c ∈ "://".toList, isSpaceOrControl c = false :=
      Percent.forall_mem_of_all (by decide)
    intro c hc
    rw [String.toList_append, String.toList_append, List.mem_append,
      List.mem_append] at hc
    rcases hc with (hc | hc) | hc
    · exact isSpaceOrControl_of_mem_scheme hscheme hc
    · exact hmark c hc
    · exact (Bool.or_eq_false_iff.mp (hdivides c hc)).1
  have hslash : text.toList.dropWhile (UriPath.isSlash true) = text.toList := by
    refine Text.dropWhile_eq_self fun c hc => Bool.eq_false_iff.mpr
      fun hslash => ?_
    have hno := hdivides c (List.mem_of_head? hc)
    simp only [UriPath.isSlash, Bool.true_and, Bool.or_eq_true, beq_iff_eq]
      at hslash
    rcases hslash with rfl | rfl <;> cases hno
  rw [parse, clean_eq_self hclean, hchars, splitScheme?_supported hscheme]
  simp only [kind_of_supported hscheme]
  have hdrop : ('/' :: '/' :: text.toList).dropWhile (UriPath.isSlash true) =
      text.toList := hslash
  rw [hdrop, parseWithAuthority, readAuthority_host hscheme h]
  rw [kind_of_supported hscheme]
  rfl

end Uri

end ClusterGate
