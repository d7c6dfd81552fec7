import SyntaxParity.Proofs.Components
import SyntaxParity.Proofs.Legible

/-!
Which language a path tells. It is told by the last component alone, and of this by
what stands behind a stem from the last dot on, in whatever case its ASCII letters are
written. No other code point comes to a known suffix in lower case: the two that have
an ASCII letter in their lower case have one that no suffix is spelled with.
-/

namespace SyntaxParity.Path

theorem exists_last_dot {name : Text} (dot : .dot ∈ name) :
    ∃ stem ext, name = stem ++ .dot :: ext ∧ .dot ∉ ext := by
  obtain ⟨ext, stem, split, last⟩ := List.eq_append_cons_of_mem (List.mem_reverse.mpr dot)
  refine ⟨stem.reverse, ext.reverse, ?_, fun member => last (List.mem_reverse.mp member)⟩
  rw [← List.reverse_reverse name, split]
  simp

theorem solid_of_no_dot {t : Text} (none : .dot ∉ t) :
    ∀ c ∈ t.reverse, (c != CodePoint.dot) = true := by
  intro c member
  rw [bne_iff_ne]
  rintro rfl
  exact none (List.mem_reverse.mp member)

theorem suffix_of_name {p : Path} {stem ext : Text} (name : p.name = stem ++ .dot :: ext)
    (last : .dot ∉ ext) : p.suffix = if ext = [] ∨ stem = [] then [] else .dot :: ext := by
  have behind : (p.name.reverse.takeWhile (· != .dot)).reverse = ext := by
    rw [name, List.reverse_append, List.reverse_cons, List.append_assoc,
      List.takeWhile_append_of_pos (solid_of_no_dot last), List.singleton_append,
      List.takeWhile_cons_of_neg (by simp), List.append_nil, List.reverse_reverse]
  have front : p.name.length - ext.length - 1 = stem.length := by
    rw [name, List.length_append, List.length_cons]
    omega
  simp only [suffix, behind, front]
  simp [List.isEmpty_iff, List.length_eq_zero_iff]

theorem suffix_of_no_dot {p : Path} (none : .dot ∉ p.name) : p.suffix = [] := by
  have behind : (p.name.reverse.takeWhile (· != .dot)).reverse = p.name := by
    rw [List.takeWhile_eq_self_iff.mpr (solid_of_no_dot none), List.reverse_reverse]
  simp [suffix, behind]

/-- A file name in a language: a stem, and from the last dot on a suffix of the table whose
ASCII letters may be in either case. -/
def Names (name language : Text) : Prop :=
  ∃ stem ext, name = stem ++ .dot :: ext ∧ stem ≠ [] ∧ .dot ∉ ext ∧
    (Text.asciiLower (.dot :: ext), language) ∈ languagesBySuffix

/-- The suffixes are spelled with ASCII signs other than the letters i and k. -/
theorem suffixes_plain : ∀ entry ∈ languagesBySuffix, ∀ d ∈ entry.1,
    d.val < 0x80 ∧ d.val ≠ 0x69 ∧ d.val ≠ 0x6b := by
  decide

theorem suffixes_lowercase : ∀ entry ∈ languagesBySuffix, entry.1.lowercase = entry.1 := by
  decide +kernel

theorem lookup_iff {suffix language : Text} :
    languagesBySuffix.lookup suffix = some language ↔ (suffix, language) ∈ languagesBySuffix := by
  constructor
  · intro found
    obtain ⟨before, after, split, -⟩ := List.lookup_eq_some_iff.mp found
    rw [split]
    exact List.mem_append_right before List.mem_cons_self
  · intro member
    have first : ∀ entry ∈ languagesBySuffix,
        languagesBySuffix.lookup entry.1 = some entry.2 := by
      decide
    exact first _ member

/-- A suffix is found by its lower case if and only if it is by that of its ASCII letters. -/
theorem lookup_lowercase_iff {suffix language : Text} :
    languagesBySuffix.lookup suffix.lowercase = some language ↔
      (suffix.asciiLower, language) ∈ languagesBySuffix := by
  rw [lookup_iff]
  constructor
  · intro member
    have same : suffix.lowercase = suffix.asciiLower :=
      Text.lowercaseAfter_eq_asciiLower (suffixes_plain _ member)
    rwa [same] at member
  · intro member
    have same : suffix.asciiLower.lowercase = suffix.asciiLower := suffixes_lowercase _ member
    rwa [← Text.lowercase_asciiLower, same]

theorem language_of_names {p : Path} {language : Text} (names : Names p.name language) :
    p.language = language := by
  obtain ⟨stem, ext, split, stemFilled, last, member⟩ := names
  have extFilled : ext ≠ [] := by
    rintro rfl
    have long : ∀ entry ∈ languagesBySuffix, entry.1 ≠ [.dot] := by decide
    exact long _ member rfl
  have suffix : p.suffix = .dot :: ext := by
    rw [suffix_of_name split last, if_neg (not_or.mpr ⟨extFilled, stemFilled⟩)]
  rw [Path.language, suffix, lookup_lowercase_iff.mpr member, Option.getD_some]

/-- A path tells the language of a suffix of its name, or no language. -/
theorem language_eq_or (p : Path) : p.language = defaultLanguage ∨ Names p.name p.language := by
  have unsuffixed (none : p.suffix = []) : p.language = defaultLanguage := by
    rw [language, none]
    rfl
  by_cases dot : .dot ∈ p.name
  · obtain ⟨stem, ext, split, last⟩ := exists_last_dot dot
    have suffix := suffix_of_name split last
    split_ifs at suffix with outside
    · exact .inl (unsuffixed suffix)
    · cases found : languagesBySuffix.lookup p.suffix.lowercase with
      | none =>
        left
        rw [language, found, Option.getD_none]
      | some known =>
        right
        rw [language, found, Option.getD_some]
        rw [suffix] at found
        exact ⟨_, _, split, fun empty => outside (.inr empty), last, lookup_lowercase_iff.mp found⟩
  · exact .inl (unsuffixed (suffix_of_no_dot dot))

theorem Names.known {name language : Text} (names : Names name language) :
    language ≠ defaultLanguage := by
  obtain ⟨stem, ext, -, -, -, member⟩ := names
  have known : ∀ entry ∈ languagesBySuffix, entry.2 ≠ defaultLanguage := by decide
  exact known _ member

/-- What a name in a language has in front of its last dot and behind it. -/
theorem Names.of_last_dot {stem ext language : Text} (names : Names (stem ++ .dot :: ext) language)
    (last : .dot ∉ ext) :
    stem ≠ [] ∧ (Text.asciiLower (.dot :: ext), language) ∈ languagesBySuffix := by
  obtain ⟨stem', ext', split, filled, last', member⟩ := names
  have reversed : ext.reverse ++ .dot :: stem.reverse = ext'.reverse ++ .dot :: stem'.reverse := by
    simpa using congrArg List.reverse split
  obtain ⟨exts, stems⟩ := Text.append_stop_inj (by simpa using last) (by simpa using last') reversed
  rw [List.reverse_inj] at exts stems
  rw [exts, stems]
  exact ⟨filled, member⟩

/-- No name in a language has its only dot at the front, a dot at its end, or a sign outside
of ASCII behind its last dot. -/
theorem Names.not_outside {name language : Text} (names : Names name language) :
    ¬ ((∃ ext, name = .dot :: ext ∧ .dot ∉ ext) ∨ name.getLast? = some .dot ∨
      (∃ stem ext, name = stem ++ .dot :: ext ∧ .dot ∉ ext ∧ ∃ c ∈ ext, 0x80 ≤ c.val)) := by
  rintro (⟨ext, rfl, last⟩ | ends | ⟨stem, ext, rfl, last, c, member, high⟩)
  · rw [← List.nil_append (.dot :: ext)] at names
    exact (names.of_last_dot last).1 rfl
  · obtain ⟨stem, rfl⟩ := List.getLast?_eq_some_iff.mp ends
    obtain ⟨-, entry⟩ := names.of_last_dot List.not_mem_nil
    have long : ∀ entry ∈ languagesBySuffix, entry.1 ≠ [.dot] := by decide
    exact long _ entry rfl
  · obtain ⟨-, entry⟩ := names.of_last_dot last
    have kept : c.asciiLower = c := by
      rw [CodePoint.asciiLower, if_neg (by omega)]
    have inside : c ∈ Text.asciiLower (.dot :: ext) :=
      List.mem_map.mpr ⟨c, List.mem_cons_of_mem _ member, kept⟩
    have plain := suffixes_plain _ entry c inside
    omega

theorem language_of_components_eq {p q : Path} (same : p.components = q.components) :
    p.language = q.language := by
  rw [language, language, suffix, suffix, name, name, same]

theorem suffix_asciiLower {p q : Path} (lower : q.name = p.name.asciiLower) :
    q.suffix = p.suffix.asciiLower := by
  have dot : CodePoint.dot.val < 0x41 := by decide
  by_cases member : .dot ∈ p.name
  · obtain ⟨stem, ext, split, last⟩ := exists_last_dot member
    have mapped := lower
    rw [split, Text.asciiLower_append_cons dot] at mapped
    rw [suffix_of_name split last,
      suffix_of_name mapped (fun inside => last ((Text.mem_asciiLower_iff dot).mp inside))]
    simp only [Text.asciiLower_eq_nil_iff]
    split_ifs
    · rfl
    · exact (Text.asciiLower_append_cons dot [] ext).symm
  · have none : .dot ∉ q.name := by
      rw [lower, Text.mem_asciiLower_iff dot]
      exact member
    rw [suffix_of_no_dot member, suffix_of_no_dot none]
    rfl

theorem language_asciiLower (t : Text) : (ofText t.asciiLower).language = (ofText t).language := by
  have lower : (ofText t.asciiLower).name = (ofText t).name.asciiLower := by
    rw [name, name, components_asciiLower, List.getLast?_map]
    cases (ofText t).components.getLast? <;> rfl
  rw [language, language, suffix_asciiLower lower, Text.lowercase_asciiLower]

/-- A directory in front of a path with a last component leaves the language as it is. -/
theorem language_below {t name : Text} (last : LastComponent t name) (directory : Text) :
    (ofText (directory ++ .slash :: t)).language = (ofText t).language := by
  rw [language, language, suffix, suffix, last.name_eq, (last.below directory).name_eq]

/-- Which language a path tells. It tells one if and only if its last component, those that
are empty or a single dot apart, is a stem and then, from the last dot on, a suffix of the
table in any case of ASCII letters; and this is then the language of the suffix. So it tells
none where the only dot of that component is at its front, where a dot is at its end, as in
a double dot, and where a sign outside of ASCII stands behind the last dot.

The language stays when ASCII letters are put into the other case, when slashes are
repeated or added at the end, when a single dot is put between slashes, in front or at the
end, when a directory is put in front of a path that has such a component, and when the path
is written in its normal form. -/
theorem language_told_by_last_component (t : Text) :
    let language (t : Text) : Text := (ofText t).language
    (language t ≠ defaultLanguage ↔ ∃ name known, LastComponent t name ∧ Names name known) ∧
    (∀ name known, LastComponent t name → Names name known → language t = known) ∧
    (∀ name, LastComponent t name →
      (∃ ext, name = .dot :: ext ∧ .dot ∉ ext) ∨ name.getLast? = some .dot ∨
        (∃ stem ext, name = stem ++ .dot :: ext ∧ .dot ∉ ext ∧ ∃ c ∈ ext, 0x80 ≤ c.val) →
      language t = defaultLanguage) ∧
    (∀ t' : Text, t'.asciiLower = t.asciiLower → language t' = language t) ∧
    (∀ front back n, t = front ++ .slash :: back →
      language (front ++ .slash :: (List.replicate n .slash ++ back)) = language t) ∧
    (∀ n, language (t ++ List.replicate n .slash) = language t) ∧
    (∀ front back, t = front ++ .slash :: back →
      language (front ++ .slash :: .dot :: .slash :: back) = language t) ∧
    language (.dot :: .slash :: t) = language t ∧
    language (t ++ [.slash, .dot]) = language t ∧
    (∀ directory, (∃ name, LastComponent t name) →
      language (directory ++ .slash :: t) = language t) ∧
    language (ofText t).render = language t := by
  intro language
  have told (name known : Text) (last : LastComponent t name) (names : Names name known) :
      language t = known :=
    language_of_names (last.name_eq.symm ▸ names)
  refine ⟨⟨?_, ?_⟩, told, ?_, ?_, ?_, ?_, ?_, ?_, ?_, ?_, ?_⟩
  · intro some
    have names : Names (ofText t).name (language t) :=
      ((ofText t).language_eq_or).resolve_left some
    refine ⟨_, _, (name_eq_nil_or t).resolve_left ?_, names⟩
    intro empty
    obtain ⟨stem, ext, split, -⟩ := names
    simp [empty] at split
  · rintro ⟨name, known, last, names⟩
    rw [told name known last names]
    exact names.known
  · intro name last outside
    apply ((ofText t).language_eq_or).resolve_right
    intro names
    rw [last.name_eq] at names
    exact names.not_outside outside
  · intro t' same
    calc
      language t' = language t'.asciiLower := (language_asciiLower t').symm
      _ = language t.asciiLower := by rw [same]
      _ = language t := language_asciiLower t
  · rintro front back n rfl
    apply language_of_components_eq
    rw [components_slash, components_slash, components_slashes]
  · intro n
    apply language_of_components_eq
    exact components_trail (trail_slashes n) t
  · rintro front back rfl
    apply language_of_components_eq
    rw [components_slash, components_slash, ← List.singleton_append, components_slash,
      components_dot, List.nil_append]
  · apply language_of_components_eq
    rw [← List.singleton_append, components_slash, components_dot, List.nil_append]
  · apply language_of_components_eq
    exact components_trail (.dot .nil) t
  · rintro directory ⟨name, last⟩
    exact language_below last directory
  · apply language_of_components_eq
    exact components_render t

end SyntaxParity.Path
