import SyntaxParity.Proofs.Decoding
import SyntaxParity.Session

/-!
UTF-8 there and back. What the strict reading accepts is what the writing of some
text comes to, and that text is what it reads. So the strict reading, the lenient
one and the writing agree on every sequence of bytes: where the strict reading
succeeds the lenient one gives the same text, and where it fails no text has
these bytes.
-/

namespace SyntaxParity

namespace CodePoint

theorem isSurrogate_eq_false {c : CodePoint} (h : c.val < 0xd800 ∨ 0xdfff < c.val) :
    c.isSurrogate = false := by
  simp only [isSurrogate, Bool.and_eq_false_iff, decide_eq_false_iff_not]
  omega

end CodePoint

namespace Utf8

theorem eq_ofNat {b : UInt8} {n : Nat} (h : b.toNat = n) : b = UInt8.ofNat n := by
  rw [← h, UInt8.ofNat_toNat]

/-- The first byte of a code point, and the bits of its own, by the number of
bytes to come. -/
theorem Announces.bounds {b : UInt8} {more bits second : Nat} (h : Announces b more bits second) :
    (more = 1 ∧ 2 ≤ bits ∧ bits < 32 ∧ b = UInt8.ofNat (0xc0 + bits)) ∨
    (more = 2 ∧ bits < 16 ∧ (0 < bits ∨ 32 ≤ second) ∧ (bits ≠ 13 ∨ second < 32) ∧
      b = UInt8.ofNat (0xe0 + bits)) ∨
    (more = 3 ∧ bits < 5 ∧ (0 < bits ∨ 16 ≤ second) ∧ (bits ≠ 4 ∨ second < 16) ∧
      b = UInt8.ofNat (0xf0 + bits)) := by
  obtain ⟨large, least, greatest, lead, low, high⟩ := h
  have value := eq_ofNat (b := b) rfl
  have small := b.toNat_lt
  generalize b.toNat = n at value small large
  subst value
  rw [lead?_ofNat small] at lead
  split_ifs at lead <;> cases lead
  all_goals simp only [UInt8.reduceToNat] at low high
  · exact .inl ⟨rfl, by omega, by omega, congrArg UInt8.ofNat (by omega)⟩
  · exact .inr (.inl ⟨rfl, by omega, by omega, by omega, congrArg UInt8.ofNat (by omega)⟩)
  · exact .inr (.inl ⟨rfl, by omega, by omega, by omega, congrArg UInt8.ofNat (by omega)⟩)
  · exact .inr (.inl ⟨rfl, by omega, by omega, by omega, congrArg UInt8.ofNat (by omega)⟩)
  · exact .inr (.inr ⟨rfl, by omega, by omega, by omega, congrArg UInt8.ofNat (by omega)⟩)
  · exact .inr (.inr ⟨rfl, by omega, by omega, by omega, congrArg UInt8.ofNat (by omega)⟩)
  · exact .inr (.inr ⟨rfl, by omega, by omega, by omega, congrArg UInt8.ofNat (by omega)⟩)

theorem encodeOne_one {c : CodePoint} (h : c.val < 0x80) : encodeOne c = [UInt8.ofNat c.val] := by
  rw [encodeOne, if_pos h]

theorem encodeOne_two {c : CodePoint} {n m : Nat} (value : c.val = n * 64 + m) (h : 2 ≤ n)
    (h' : n < 32) (hm : m < 64) :
    encodeOne c = [UInt8.ofNat (0xc0 + n), UInt8.ofNat (0x80 + m)] := by
  have first : c.val / 64 = n := by omega
  have second : c.val % 64 = m := by omega
  rw [encodeOne, if_neg (by omega), if_pos (by omega), first]
  simp only [second]

theorem encodeOne_three {c : CodePoint} {n m k : Nat} (value : c.val = (n * 64 + m) * 64 + k)
    (h : n < 16) (hm : m < 64) (hk : k < 64) (long : 0 < n ∨ 32 ≤ m) :
    encodeOne c = [UInt8.ofNat (0xe0 + n), UInt8.ofNat (0x80 + m), UInt8.ofNat (0x80 + k)] := by
  have first : c.val / 4096 = n := by omega
  have second : c.val / 64 % 64 = m := by omega
  have third : c.val % 64 = k := by omega
  rw [encodeOne, if_neg (by omega), if_neg (by omega), if_pos (by omega), first]
  simp only [second, third]

theorem encodeOne_four {c : CodePoint} {n m k l : Nat}
    (value : c.val = ((n * 64 + m) * 64 + k) * 64 + l) (h : n < 5) (hm : m < 64) (hk : k < 64)
    (hl : l < 64) (long : 0 < n ∨ 16 ≤ m) :
    encodeOne c = [UInt8.ofNat (0xf0 + n), UInt8.ofNat (0x80 + m), UInt8.ofNat (0x80 + k),
      UInt8.ofNat (0x80 + l)] := by
  have first : c.val / 262144 = n := by omega
  have second : c.val / 4096 % 64 = m := by omega
  have third : c.val / 64 % 64 = k := by omega
  have fourth : c.val % 64 = l := by omega
  rw [encodeOne, if_neg (by omega), if_neg (by omega), if_neg (by omega), first]
  simp only [second, third, fourth]

/-- What comes next when a sound piece is read: a byte within the bounds, of six
bits. -/
theorem byte_of_resume {taken : Bytes} {bits more : Nat} {least greatest : UInt8}
    {rest rest' : Bytes} {c : CodePoint} (base : 0x80 ≤ least.toNat)
    (top : greatest.toNat ≤ 0xbf)
    (h : resume taken bits least greatest (more + 1) rest = (.sound c, rest')) :
    ∃ m tail, m < 64 ∧ least.toNat ≤ 0x80 + m ∧ 0x80 + m ≤ greatest.toNat ∧
      rest = UInt8.ofNat (0x80 + m) :: tail ∧
      resume (UInt8.ofNat (0x80 + m) :: taken) (bits * 64 + m) 0x80 0xbf more tail =
        (.sound c, rest') := by
  cases rest with
  | nil => cases h
  | cons b tail =>
    rw [resume] at h
    split at h
    · next inside =>
      simp only [Bool.and_eq_true, decide_eq_true_eq, UInt8.le_iff_toNat_le] at inside
      obtain ⟨m, value⟩ : ∃ m, b.toNat = 0x80 + m := ⟨b.toNat - 0x80, by omega⟩
      rw [value, Nat.add_sub_cancel_left, eq_ofNat value] at h
      exact ⟨m, tail, by omega, by omega, by omega, by rw [eq_ofNat value], h⟩
    · cases h

theorem resume_zero_eq {taken : Bytes} {bits : Nat} {least greatest : UInt8}
    {rest rest' : Bytes} {c : CodePoint}
    (h : resume taken bits least greatest 0 rest = (.sound c, rest')) :
    c = .ofNat bits ∧ rest = rest' := by
  rw [resume, Prod.mk.injEq, Piece.sound.injEq] at h
  exact ⟨h.1.symm, h.2⟩

theorem lead?_bounds {b : UInt8} {lead : Lead} (h : lead? b = some lead) :
    0x80 ≤ b.toNat ∧ 0 < lead.more ∧ 0x80 ≤ lead.least.toNat ∧ lead.greatest.toNat ≤ 0xbf := by
  rw [eq_ofNat (b := b) rfl, lead?_ofNat b.toNat_lt] at h
  split_ifs at h <;> cases h <;> simp only [UInt8.reduceToNat] <;> omega

/-- A continuing byte, once those that the first byte bounds are read. -/
theorem byte_of_resume_rest {taken : Bytes} {bits more : Nat} {rest rest' : Bytes}
    {c : CodePoint} (h : resume taken bits 0x80 0xbf (more + 1) rest = (.sound c, rest')) :
    ∃ m tail, m < 64 ∧ rest = UInt8.ofNat (0x80 + m) :: tail ∧
      resume (UInt8.ofNat (0x80 + m) :: taken) (bits * 64 + m) 0x80 0xbf more tail =
        (.sound c, rest') := by
  obtain ⟨m, tail, bound, -, -, bytes, resumed⟩ := byte_of_resume (by decide) (by decide) h
  exact ⟨m, tail, bound, bytes, resumed⟩

/-- A sound piece is one byte, or its first byte announces the second one and how
many more are read. -/
theorem announces_of_next {b : UInt8} {rest rest' : Bytes} {c : CodePoint}
    (h : next b rest = (.sound c, rest')) :
    (b.toNat < 0x80 ∧ c = .ofNat b.toNat ∧ rest = rest') ∨
      ∃ more bits m tail, Announces b (more + 1) bits m ∧ m < 64 ∧
        rest = UInt8.ofNat (0x80 + m) :: tail ∧
        resume [UInt8.ofNat (0x80 + m), b] (bits * 64 + m) 0x80 0xbf more tail =
          (.sound c, rest') := by
  rw [next] at h
  split at h
  · next ascii =>
    rw [Prod.mk.injEq, Piece.sound.injEq] at h
    exact .inl ⟨UInt8.lt_iff_toNat_lt.mp ascii, h.1.symm, h.2⟩
  cases announced : lead? b with
  | none =>
    rw [announced] at h
    cases h
  | some lead =>
    obtain ⟨large, positive, base, top⟩ := lead?_bounds announced
    obtain ⟨more, bits, least, greatest⟩ := lead
    obtain ⟨more, rfl⟩ := Nat.exists_eq_add_one.mpr positive
    rw [announced] at h
    obtain ⟨m, tail, bound, low, high, bytes, resumed⟩ := byte_of_resume base top h
    exact .inr ⟨more, bits, m, tail, ⟨large, least, greatest, announced, low, high⟩, bound, bytes,
      resumed⟩

/-- A sound piece takes the bytes of a code point that is no surrogate, and no
other bytes. -/
theorem bytes_of_next_sound {b : UInt8} {rest rest' : Bytes} {c : CodePoint}
    (h : next b rest = (.sound c, rest')) :
    b :: rest = encodeOne c ++ rest' ∧ c.isSurrogate = false := by
  rcases announces_of_next h with ⟨ascii, rfl, rfl⟩ | ⟨more, bits, m, tail, lead, hm, rfl, resumed⟩
  · have value := CodePoint.val_ofNat (n := b.toNat) (by omega)
    rw [encodeOne_one (by omega), value, UInt8.ofNat_toNat]
    exact ⟨rfl, CodePoint.isSurrogate_eq_false (by omega)⟩
  -- the bounds of the second byte are what keeps the number from being written in fewer
  -- bytes, from being a surrogate and from lying beyond the code space
  rcases lead.bounds with ⟨two, low, high, rfl⟩ | ⟨three, high, long, whole, rfl⟩ |
    ⟨four, high, long, inside, rfl⟩
  · obtain rfl : more = 0 := by omega
    obtain ⟨rfl, rfl⟩ := resume_zero_eq resumed
    have value := CodePoint.val_ofNat (n := bits * 64 + m) (by omega)
    rw [encodeOne_two value low high hm]
    exact ⟨rfl, CodePoint.isSurrogate_eq_false (by omega)⟩
  · obtain rfl : more = 1 := by omega
    obtain ⟨k, tail, hk, rfl, resumedThird⟩ := byte_of_resume_rest resumed
    obtain ⟨rfl, rfl⟩ := resume_zero_eq resumedThird
    have value := CodePoint.val_ofNat (n := (bits * 64 + m) * 64 + k) (by omega)
    rw [encodeOne_three value high hm hk long]
    exact ⟨rfl, CodePoint.isSurrogate_eq_false (by omega)⟩
  · obtain rfl : more = 2 := by omega
    obtain ⟨k, tail, hk, rfl, resumedThird⟩ := byte_of_resume_rest resumed
    obtain ⟨l, tail, hl, rfl, resumedFourth⟩ := byte_of_resume_rest resumedThird
    obtain ⟨rfl, rfl⟩ := resume_zero_eq resumedFourth
    have value := CodePoint.val_ofNat (n := ((bits * 64 + m) * 64 + k) * 64 + l) (by omega)
    rw [encodeOne_four value high hm hk hl long]
    exact ⟨rfl, CodePoint.isSurrogate_eq_false (by omega)⟩

/-- Pieces that are all sound take the bytes of their code points. -/
theorem flatMap_encodeOne_pieces {bytes : Bytes}
    (sound : ∀ p ∈ pieces bytes, p.codePoint?.isSome = true) :
    ((pieces bytes).filterMap Piece.codePoint?).flatMap encodeOne = bytes := by
  induction bytes using pieces.induct with
  | case1 => rw [pieces]; rfl
  | case2 b rest ih =>
    rw [pieces] at sound ⊢
    rcases read : next b rest with ⟨piece, rest'⟩
    rw [read] at ih sound
    cases piece with
    | sound c =>
      have first := (bytes_of_next_sound read).1
      have others := ih fun p member => sound p (List.mem_cons_of_mem _ member)
      simp only [List.filterMap_cons, Piece.codePoint?, List.flatMap_cons, others, first]
    | flawed bytes flaw => simp [Piece.codePoint?] at sound

theorem isSurrogate_of_mem_pieces {bytes : Bytes} {c : CodePoint} (h : .sound c ∈ pieces bytes) :
    c.isSurrogate = false := by
  induction bytes using pieces.induct with
  | case1 =>
    rw [pieces] at h
    cases h
  | case2 b rest ih =>
    rw [pieces] at h
    rcases List.mem_cons.mp h with first | later
    · exact (bytes_of_next_sound (Prod.ext first.symm rfl)).2
    · exact ih later

theorem encodable_decodeReplacing (bytes : Bytes) : (decodeReplacing bytes).Encodable := by
  intro c member
  obtain ⟨piece, read, rfl⟩ := List.mem_map.mp member
  cases piece with
  | sound c => exact isSurrogate_of_mem_pieces read
  | flawed =>
    have replacement : (CodePoint.ofNat 0xfffd).isSurrogate = false := by decide
    exact replacement

theorem decode_encode {t : Text} (h : t.Encodable) : decode (t.flatMap encodeOne) = .ok t := by
  have read := pieces_encode h []
  rw [List.append_nil, pieces, List.append_nil] at read
  have sound : (t.map Piece.sound).dropWhile (·.codePoint?.isSome) = [] := by
    simp [List.dropWhile_eq_nil_iff, Piece.codePoint?]
  have points : (t.map Piece.sound).filterMap Piece.codePoint? = t := by
    simp [List.filterMap_map, Function.comp_def, Piece.codePoint?]
  simp only [decode, read, sound, points]

/-- The strict reading succeeds if every piece is sound. -/
theorem sound_of_decode {bytes : Bytes} {t : Text} (h : decode bytes = .ok t) :
    (∀ p ∈ pieces bytes, p.codePoint?.isSome = true) ∧
      (pieces bytes).filterMap Piece.codePoint? = t := by
  rw [decode] at h
  cases flaws : (pieces bytes).dropWhile (·.codePoint?.isSome) with
  | nil =>
    simp only [flaws] at h
    exact ⟨List.dropWhile_eq_nil_iff.mp flaws, Except.ok.inj h⟩
  | cons piece others =>
    have unsound := List.head?_dropWhile_not (·.codePoint?.isSome) (pieces bytes)
    simp only [flaws, List.head?_cons] at h unsound
    cases piece with
    | sound c => cases unsound
    | flawed => cases h

/-- The strict reading undoes the writing, and the writing the reading. -/
theorem decode_eq_ok_iff {bytes : Bytes} {t : Text} :
    decode bytes = .ok t ↔ encode t = .ok bytes := by
  rw [encode_eq_ok_iff]
  constructor
  · intro h
    obtain ⟨sound, rfl⟩ := sound_of_decode h
    refine ⟨?_, flatMap_encodeOne_pieces sound⟩
    intro c member
    obtain ⟨piece, read, point⟩ := List.mem_filterMap.mp member
    cases piece with
    | sound d =>
      obtain rfl := Option.some.inj point
      exact isSurrogate_of_mem_pieces read
    | flawed bytes flaw => cases point
  · rintro ⟨encodable, rfl⟩
    exact decode_encode encodable

theorem decodeReplacing_append {front : Bytes} {t : Text} (h : decode front = .ok t)
    (rest : Bytes) : decodeReplacing (front ++ rest) = t ++ decodeReplacing rest := by
  obtain ⟨encodable, rfl⟩ := encode_eq_ok_iff.mp (decode_eq_ok_iff.mp h)
  rw [decodeReplacing, pieces_encode encodable, List.map_append, List.map_map]
  exact congrArg (· ++ decodeReplacing rest) (List.map_id t)

theorem decodeReplacing_of_decode {bytes : Bytes} {t : Text} (h : decode bytes = .ok t) :
    decodeReplacing bytes = t := by
  obtain ⟨encodable, rfl⟩ := encode_eq_ok_iff.mp (decode_eq_ok_iff.mp h)
  exact decodeReplacing_encode encodable

end Utf8

theorem Session.parseIn_of_encode {source : Text} {bytes : Bytes}
    (h : Utf8.encode source = .ok bytes) (env : Environment) (language : Language) (id : Text) :
    parseIn env language id source =
      (env.parse language.grammar bytes).mapError (.parserFailed id) := by
  simp only [parseIn, h]
  cases env.parse language.grammar bytes with
  | error reason => rfl
  | ok root => rfl

namespace Node

theorem text_of_bytes {n : Node} {bytes : Bytes} (h : n.content = .bytes bytes) :
    n.text = Utf8.decodeReplacing bytes := by
  rw [text, h, Content.toText]

/-- The texts of nodes against the bytes they carry. The parser is given the UTF-8
form of a source without surrogates, and a node that spans the bytes between two
positions of it has the code points between them for its text. Bytes that the
strict reading takes for a text are the UTF-8 form of this text, and a node with
these bytes has this text; all other bytes are not the UTF-8 form of the text of a
node with them, and no such text has surrogates. The text of bytes that begin with
a text is that text and the text of the other bytes. -/
theorem text_round_trip :
    (∀ source : Text, source.Encodable → ∃ bytes, Utf8.encode source = .ok bytes ∧
      (∀ env language id, Session.parseIn env language id source =
        (env.parse language.grammar bytes).mapError (.parserFailed id)) ∧
      ∀ (i j : Nat) (n : Node), i ≤ j →
        n.content = .bytes (bytes.slice (Utf8.offset source i) (Utf8.offset source j)) →
          n.text = (source.take j).drop i) ∧
    (∀ (bytes : Bytes) (n : Node), n.content = .bytes bytes →
      (∀ t, Utf8.decode bytes = .ok t → Utf8.encode t = .ok bytes ∧ n.text = t) ∧
      (∀ flaw, Utf8.decode bytes = .error flaw → Utf8.encode n.text ≠ .ok bytes) ∧
      n.text.Encodable) ∧
    (∀ (front rest : Bytes) (t : Text) (n first last : Node), Utf8.decode front = .ok t →
      n.content = .bytes (front ++ rest) → first.content = .bytes front →
        last.content = .bytes rest → n.text = first.text ++ last.text) := by
  refine ⟨?_, ?_, ?_⟩
  · intro source encodable
    have written : Utf8.encode source = .ok (source.flatMap Utf8.encodeOne) :=
      Utf8.encode_eq_ok_iff.mpr ⟨encodable, rfl⟩
    refine ⟨_, written, Session.parseIn_of_encode written, ?_⟩
    intro i j n le spans
    exact Spans.text spans le encodable
  · intro bytes n content
    rw [text_of_bytes content]
    refine ⟨?_, ?_, Utf8.encodable_decodeReplacing bytes⟩
    · intro t read
      exact ⟨Utf8.decode_eq_ok_iff.mp read, Utf8.decodeReplacing_of_decode read⟩
    · intro flaw unread written
      rw [Utf8.decode_eq_ok_iff.mpr written] at unread
      cases unread
  · intro front rest t n first last read content contentFirst contentLast
    rw [text_of_bytes content, text_of_bytes contentFirst, text_of_bytes contentLast,
      Utf8.decodeReplacing_append read, Utf8.decodeReplacing_of_decode read]

end Node

end SyntaxParity
