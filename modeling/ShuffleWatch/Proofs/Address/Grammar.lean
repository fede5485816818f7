import ShuffleWatch.Address
import ShuffleWatch.Proofs.Text.Spelling

/-!
# The grammar of addresses

A person may write an address as forty hexadecimal digits, after a mark and between
blanks (`Presents`). Exactly such texts are read, as the address whose bytes the digits
spell, and the digits of two texts for one address agree up to their case
(`parse_iff_presents`): although the reader behind it is lenient, there is no other way
to write an address.
-/

namespace ShuffleWatch.Address

open Text

variable {cs ds es : List Char} {a b : Address} {c : Char}

/-- The text is these forty hexadecimal digits, perhaps after the mark `0x` or `0X`,
    perhaps between blanks. -/
structure Presents (cs ds : List Char) : Prop where
  pads : ∃ mark ∈ [[], ['0', 'x'], ['0', 'X']], Pads (mark ++ ds) cs
  length_eq : ds.length = 40
  mem : ∀ c ∈ ds, c ∈ Hex.lower ++ Hex.upper

theorem ofDigits?_eq_some_iff : ofDigits? ds = some a ↔ Hex.Spells ds a.bytes := by
  rw [ofDigits?, Option.bind_eq_some_iff, ← Hex.bytes?_eq_some_iff]
  constructor
  · rintro ⟨bs, hbs, ha⟩
    rw [ofBytes?, Option.dite_none_right_eq_some] at ha
    obtain ⟨_, ha⟩ := ha
    cases ha
    exact hbs
  · exact fun h => ⟨a.bytes, h, a.ofBytes?_bytes⟩

theorem eq_of_bytes_eq (h : a.bytes = b.bytes) : a = b := by
  cases a
  cases b
  cases h
  rfl

/-! ## Marks -/

/-- A text is a mark, which may be left out, and what comes after it. -/
theorem exists_mark_append (cs : List Char) :
    ∃ mark ∈ [[], ['0', 'x'], ['0', 'X']], cs = mark ++ withoutMark cs := by
  rw [withoutMark.eq_def]
  split
  · exact ⟨['0', 'x'], by decide, rfl⟩
  · exact ⟨['0', 'X'], by decide, rfl⟩
  · exact ⟨[], by decide, rfl⟩

/-- No digit is taken for a part of a mark. -/
theorem withoutMark_append {mark : List Char} (hmark : mark ∈ [[], ['0', 'x'], ['0', 'X']])
    (hds : ∀ c ∈ ds, c ∈ Hex.lower ++ Hex.upper) : withoutMark (mark ++ ds) = ds := by
  simp only [List.mem_cons, List.not_mem_nil, or_false] at hmark
  rcases hmark with rfl | rfl | rfl
  · rw [List.nil_append, withoutMark.eq_def]
    split
    · exact absurd (hds 'x' (by simp)) (by decide)
    · exact absurd (hds 'X' (by simp)) (by decide)
    · rfl
  · rfl
  · rfl

theorem not_isBlank_of_mem (h : c ∈ Hex.lower ++ Hex.upper) : isBlank c = false := by
  obtain ⟨d, hd⟩ := Hex.exists_hasValue_iff.2 h
  exact hd.isBlank_eq

/-! ## Texts -/

namespace Presents

/-- The digits that a text presents are what is left of it without blanks and mark. -/
theorem eq_withoutMark (h : Presents cs ds) : withoutMark (trim cs) = ds := by
  obtain ⟨mark, hmark, hpads⟩ := h.pads
  have hmarks : ∀ mark ∈ [[], ['0', 'x'], ['0', 'X']], ∀ c ∈ mark, isBlank c = false := by
    simp [isBlank]
  have hblank : ∀ c ∈ mark ++ ds, isBlank c = false :=
    List.forall_mem_append.2 ⟨hmarks mark hmark, fun c hc => not_isBlank_of_mem (h.mem c hc)⟩
  rw [(pads_iff hblank).1 hpads, withoutMark_append hmark h.mem]

/-- The digits that a text presents spell one address. -/
theorem exists_spells (h : Presents cs ds) : ∃ a : Address, Hex.Spells ds a.bytes := by
  obtain ⟨bs, hbs, hlength⟩ := Hex.exists_spells (k := 20) h.mem h.length_eq
  exact ⟨⟨bs, hlength⟩, hbs⟩

theorem spells_iff (h : Presents cs ds) : read? cs = some a ↔ Hex.Spells ds a.bytes := by
  rw [read?_eq, h.eq_withoutMark, ofDigits?_eq_some_iff]

end Presents

theorem presents_of_read? (h : read? cs = some a) : Presents cs (withoutMark (trim cs)) := by
  rw [read?_eq] at h
  have hspells := ofDigits?_eq_some_iff.1 h
  obtain ⟨mark, hmark, htrim⟩ := exists_mark_append (trim cs)
  exact ⟨⟨mark, hmark, htrim ▸ pads_trim cs⟩, length_of_ofDigits? h, hspells.mem⟩

theorem read?_eq_some_iff :
    read? cs = some a ↔ ∃ ds, Presents cs ds ∧ Hex.Spells ds a.bytes := by
  constructor
  · intro h
    have hpresents := presents_of_read? h
    exact ⟨_, hpresents, hpresents.spells_iff.1 h⟩
  · rintro ⟨ds, hpresents, hspells⟩
    exact hpresents.spells_iff.2 hspells

/-! ## Reading -/

theorem parse_eq_ok_iff {s : String} : parse s = .ok a ↔ read? s.toList = some a := by
  rw [parse]
  cases read? s.toList <;> simp

theorem parse_eq_error_iff {s : String} {e : Error} :
    parse s = .error e ↔ read? s.toList = none ∧ e = .badAddress s := by
  rw [parse]
  cases read? s.toList <;> simp [eq_comm]

/-- Exactly the texts that present forty digits are read, as the address that these digits
    spell; any other text is quoted as it is. Two texts are read as one address when their
    digits agree up to case, and the written form of an address, which is in lower case,
    is read as that address. -/
theorem parse_iff_presents (s : String) :
    (∀ a, parse s = .ok a ↔ ∃ ds, Presents s.toList ds ∧ Hex.Spells ds a.bytes) ∧
    (∀ e, parse s = .error e ↔ (∀ ds, ¬ Presents s.toList ds) ∧ e = .badAddress s) ∧
    (∀ t ds es, Presents s.toList ds → Presents t.toList es →
      (parse s = parse t ↔ ds.map Char.toLower = es.map Char.toLower)) ∧
    ∀ a, parse a.render = .ok a ∧ ∃ ds, a.render.toList = '0' :: 'x' :: ds ∧
      Hex.Spells ds a.bytes ∧ ds.map Char.toLower = ds := by
  refine ⟨fun a => ?_, fun e => ?_, fun t ds es hs ht => ?_, fun a => ⟨parse_render a, ?_⟩⟩
  · rw [parse_eq_ok_iff, read?_eq_some_iff]
  · rw [parse_eq_error_iff, Option.eq_none_iff_forall_ne_some]
    refine and_congr_left fun _ => ⟨fun h ds hds => ?_, fun h a ha => h _ (presents_of_read? ha)⟩
    obtain ⟨a, ha⟩ := hds.exists_spells
    exact h a (hds.spells_iff.2 ha)
  · -- Addresses are equal if their bytes are, and the bytes are spelled alike up to case.
    obtain ⟨a, ha⟩ := hs.exists_spells
    obtain ⟨b, hb⟩ := ht.exists_spells
    rw [parse_eq_ok_iff.2 (hs.spells_iff.2 ha), parse_eq_ok_iff.2 (ht.spells_iff.2 hb),
      ← ha.eq_iff hb, Except.ok.injEq]
    exact ⟨congrArg bytes, eq_of_bytes_eq⟩
  · have hspells := Hex.spells_ofBytes a.bytes
    exact ⟨a.digits, String.toList_ofList, hspells, hspells.map_toLower⟩

/-- An address in upper case between blanks, and the same one in mixed case without a
    mark. -/
theorem parse_iff_presents_mixed :
    ∃ a, parse "\t0X5FBDB2315678AFECB367F032D93F642F64180AA3 " = .ok a ∧
      parse "5FbDB2315678afecb367f032d93F642f64180aa3" = .ok a := by
  let upper := "5FBDB2315678AFECB367F032D93F642F64180AA3".toList
  let mixed := "5FbDB2315678afecb367f032d93F642f64180aa3".toList
  -- The two differ in the padding, the prefix and the case of some digits.
  have hdigits : upper.all (fun c => decide (c ∈ Hex.lower ++ Hex.upper)) = true ∧
      mixed.all (fun c => decide (c ∈ Hex.lower ++ Hex.upper)) = true := by decide +kernel
  have hupper : Presents "\t0X5FBDB2315678AFECB367F032D93F642F64180AA3 ".toList upper := by
    refine ⟨⟨['0', 'X'], by decide, ['\t'], [' '], ?_, ?_, by decide +kernel⟩, by decide +kernel,
      fun c hc => ?_⟩
    · exact List.forall_mem_singleton.2 rfl
    · exact List.forall_mem_singleton.2 rfl
    · exact of_decide_eq_true (List.all_eq_true.1 hdigits.1 c hc)
  have hmixed : Presents "5FbDB2315678afecb367f032d93F642f64180aa3".toList mixed := by
    refine ⟨⟨[], by decide, [], [], ?_, ?_, by decide +kernel⟩, by decide +kernel,
      fun c hc => ?_⟩
    · exact List.forall_mem_nil _
    · exact List.forall_mem_nil _
    · exact of_decide_eq_true (List.all_eq_true.1 hdigits.2 c hc)
  obtain ⟨a, ha⟩ := hupper.exists_spells
  obtain ⟨hread, -, hsame, -⟩ :=
    parse_iff_presents "\t0X5FBDB2315678AFECB367F032D93F642F64180AA3 "
  have hok := (hread a).2 ⟨upper, hupper, ha⟩
  have hcase : upper.map Char.toLower = mixed.map Char.toLower := by decide +kernel
  exact ⟨a, hok, ((hsame _ _ _ hupper hmixed).2 hcase).symm.trans hok⟩

end ShuffleWatch.Address
