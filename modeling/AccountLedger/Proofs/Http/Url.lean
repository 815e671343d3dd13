import AccountLedger.Http.Path
import AccountLedger.Http.Url
import AccountLedger.Proofs.Text.Digits
import Mathlib.Data.List.DropRight

/-!
Paths of letters, digits and hyphens are sent as they are written, and what they name is read back
from them.
-/

namespace AccountLedger

namespace Url

/-- Characters that stand for themselves everywhere in an address. -/
def isPlain (c : Char) : Bool := c.isAlphanum || c == '-'

variable {c : Char} {segment path : List Char} {segments : List (List Char)}

theorem isPlain_toNat (plain : isPlain c = true) : 0x20 < c.toNat ∧ c.toNat < 0x7F := by
  delta isPlain Char.isAlphanum Char.isAlpha Char.isUpper Char.isLower Char.isDigit at plain
  simp only [Bool.or_eq_true, Bool.and_eq_true, decide_eq_true_eq, beq_iff_eq, ge_iff_le,
    UInt32.le_iff_toNat_le] at plain
  rcases plain with ((upper | lower) | digit) | rfl
  · exact ⟨Nat.lt_of_lt_of_le (by decide) upper.1, Nat.lt_of_le_of_lt upper.2 (by decide)⟩
  · exact ⟨Nat.lt_of_lt_of_le (by decide) lower.1, Nat.lt_of_le_of_lt lower.2 (by decide)⟩
  · exact ⟨Nat.lt_of_lt_of_le (by decide) digit.1, Nat.lt_of_le_of_lt digit.2 (by decide)⟩
  · decide

/-- A character that means nothing in an address. -/
structure Inert (c : Char) : Prop where
  unreserved : isReservedInPath c = false
  apart : c ≠ '/' ∧ c ≠ '\\' ∧ c ≠ '?' ∧ c ≠ '#'
  undotted : c.toLower ∉ ['.', '%']
  unencoded : 0x25 ∉ String.utf8EncodeChar c

theorem isPlain_inert (plain : isPlain c = true) : Inert c := by
  have all : ∀ n : Fin 0x7F, isPlain (Char.ofNat n) = true →
      isReservedInPath (Char.ofNat n) = false ∧
        (Char.ofNat n ≠ '/' ∧ Char.ofNat n ≠ '\\' ∧ Char.ofNat n ≠ '?' ∧ Char.ofNat n ≠ '#') ∧
        (Char.ofNat n).toLower ∉ ['.', '%'] ∧ 0x25 ∉ String.utf8EncodeChar (Char.ofNat n) := by
    decide
  have this := all ⟨c.toNat, (isPlain_toNat plain).2⟩
  rw [Char.ofNat_toNat] at this
  obtain ⟨unreserved, apart, undotted, unencoded⟩ := this plain
  exact ⟨unreserved, apart, undotted, unencoded⟩

/-- A segment of plain characters. -/
def Plain (segment : List Char) : Prop := ∀ c ∈ segment, isPlain c = true

instance : Decidable (Plain segment) := List.decidableBAll (fun c => isPlain c = true) segment

/-- Dots, encoded or not, are no segments of plain characters. -/
theorem Plain.not_dots (plain : Plain segment) {text : String}
    (dots : '.' ∈ text.toList ∨ '%' ∈ text.toList) :
    String.ofList (segment.map Char.toLower) ≠ text := by
  rintro rfl
  simp only [String.toList_ofList, List.mem_map] at dots
  rcases dots with ⟨c, inside, same⟩ | ⟨c, inside, same⟩
  all_goals exact (isPlain_inert (plain c inside)).undotted (by simp [same])

theorem Plain.not_here (plain : Plain segment) : isHere segment = false := by
  simp [isHere, plain.not_dots]

theorem Plain.not_up (plain : Plain segment) : isUp segment = false := by
  simp [isUp, plain.not_dots]

/-- Plain segments are no dots. -/
theorem resolve_plain (plain : ∀ segment ∈ segments, Plain segment) (done : List (List Char)) :
    resolve done segments = segments.reverse ++ done := by
  induction segments generalizing done with
  | nil => rfl
  | cons segment rest ih =>
    have here := (plain _ List.mem_cons_self).not_here
    have up := (plain _ List.mem_cons_self).not_up
    cases rest with
    | nil => simp [resolve, here, up]
    | cons next rest =>
      have others := ih (fun other inside => plain other (.tail _ inside)) (segment :: done)
      simp [resolve, here, up, others]

/-- The path with these segments. -/
def pathText (segments : List (List Char)) : List Char := '/' :: ['/'].intercalate segments

theorem mem_intercalate {separator : Char} (inside : c ∈ [separator].intercalate segments) :
    c = separator ∨ ∃ segment ∈ segments, c ∈ segment := by
  induction segments with
  | nil => simp at inside
  | cons segment rest ih =>
    cases rest with
    | nil => exact .inr ⟨segment, by simp, by simpa using inside⟩
    | cons next rest =>
      simp only [List.intercalate_cons_cons, List.mem_append, List.mem_singleton] at inside
      rcases inside with (here | between) | later
      · exact .inr ⟨segment, List.mem_cons_self, here⟩
      · exact .inl between
      · exact (ih later).imp_right fun ⟨other, among, there⟩ => ⟨other, .tail _ among, there⟩

theorem mem_pathText (plain : ∀ segment ∈ segments, Plain segment)
    (inside : c ∈ pathText segments) : c = '/' ∨ isPlain c = true := by
  rcases List.mem_cons.mp inside with slash | later
  · exact .inl slash
  · exact (mem_intercalate later).imp_right fun ⟨segment, among, here⟩ => plain segment among c here

theorem encodeChar_path (allowed : c = '/' ∨ isPlain c = true) :
    encodeChar isReservedInPath c = [c] := by
  rcases allowed with rfl | plain
  · rfl
  · simp [encodeChar, (isPlain_inert plain).unreserved]

theorem splitOn_intercalate_plain (some : segments ≠ [])
    (plain : ∀ segment ∈ segments, Plain segment) :
    (['/'].intercalate segments).splitOn '/' = segments :=
  List.splitOn_intercalate '/'
    (fun segment among slash => (isPlain_inert (plain segment among _ slash)).apart.1 rfl) some

theorem pathOf_pathText (some : segments ≠ []) (plain : ∀ segment ∈ segments, Plain segment) :
    pathOf (pathText segments) = String.ofList (pathText segments) := by
  have slashes : (pathText segments).map (fun c => if c = '\\' then '/' else c) =
      pathText segments := by
    refine (List.map_congr_left fun c inside => ?_).trans (List.map_id _)
    rcases mem_pathText plain inside with rfl | plain
    · rfl
    · exact if_neg (isPlain_inert plain).apart.2.1
  have encoded : (pathText segments).flatMap (encodeChar isReservedInPath) =
      pathText segments :=
    (List.flatMap_congr fun c inside => encodeChar_path (mem_pathText plain inside)).trans
      (List.flatMap_singleton' _)
  have split : (pathText segments).splitOn '/' = [] :: segments := by
    have nothing : '/' ∉ ([] : List Char) := List.not_mem_nil
    have first := List.splitOn_append_cons_self_of_not_mem nothing (['/'].intercalate segments)
    rw [splitOn_intercalate_plain some plain] at first
    exact first
  simp only [pathOf, slashes, encoded, split, List.drop_succ_cons, List.drop_zero,
    resolve_plain plain, List.append_nil, List.reverse_reverse]
  rfl

end Url

namespace Path

variable {segment : List Char} {segments : List (List Char)}

/-- Bytes without a percent sign stand for themselves. -/
theorem decodeBytes_eq {bytes : List UInt8} (plain : 0x25 ∉ bytes) : decodeBytes bytes = bytes := by
  induction bytes using decodeBytes.induct with
  | case1 => rfl
  | case2 => simp at plain
  | case3 => simp at plain
  | case4 byte rest other ih =>
    rw [decodeBytes, ih fun later => plain (.tail _ later)]
    exact other

theorem decode?_plain (plain : Url.Plain segment) :
    decode? (String.ofList segment) = some (String.ofList segment) := by
  have bytes : 0x25 ∉ (String.ofList segment).toUTF8.data.toList := by
    intro inside
    have coded : 0x25 ∈ segment.flatMap String.utf8EncodeChar := by
      simpa [List.utf8Encode] using inside
    obtain ⟨c, among, here⟩ := List.mem_flatMap.mp coded
    exact (Url.isPlain_inert (plain c among)).unencoded here
  rw [decode?, decodeBytes_eq bytes, Array.toArray_toList]
  exact dif_pos (String.ofList segment).isValidUTF8

theorem segments?_pathText (filled : segments ≠ [])
    (plain : ∀ segment ∈ segments, Url.Plain segment) :
    segments? (String.ofList (Url.pathText segments)) = some (segments.map String.ofList) := by
  have whole : (Url.pathText segments).takeWhile (fun c => c != '?' && c != '#') =
      Url.pathText segments := by
    refine List.takeWhile_eq_self_iff.mpr fun c inside => ?_
    rcases Url.mem_pathText plain inside with rfl | plain
    · rfl
    · simp [(Url.isPlain_inert plain).apart]
  rw [segments?, String.toList_ofList, whole, Url.pathText]
  simp only [Url.splitOn_intercalate_plain filled plain]

end Path

/-- An address that names a server and no place on it: a scheme, two slashes, the server, and
perhaps more slashes. -/
structure RootAddress where
  scheme : List Char
  server : List Char
  slashes : Nat
  scheme_apart : '/' ∉ scheme
  server_some : server ≠ []
  server_apart : ∀ c ∈ server, c ∉ ['/', '\\', '?', '#']

namespace RootAddress

variable (root : RootAddress) {path : List Char}

/-- The address up to its server. -/
def front : List Char := root.scheme ++ '/' :: '/' :: root.server

def text : String := String.ofList (root.front ++ List.replicate root.slashes '/')

/-- Nothing is dropped behind the last character that stays. -/
theorem rdropWhile_append {front back : List Char} {drops : Char → Bool} (some : back ≠ [])
    (stays : ∀ c ∈ back, drops c = false) : (front ++ back).rdropWhile drops = front ++ back := by
  rw [List.rdropWhile_eq_self_iff]
  intro _
  rw [List.getLast_append_right some, stays _ (List.getLast_mem some)]
  exact Bool.false_ne_true

theorem baseAddress_text : baseAddress root.text = String.ofList root.front := by
  have server : ∀ c ∈ root.server, (c == '/') = false := fun c inside =>
    beq_false_of_ne fun slash => root.server_apart c inside (by simp [slash])
  have slashes : (List.replicate root.slashes '/' ++ root.front.reverse).dropWhile (· == '/') =
      root.front.reverse.dropWhile (· == '/') :=
    List.dropWhile_append_of_pos fun c inside => by simp [List.eq_of_mem_replicate inside]
  have kept : root.front.rdropWhile (· == '/') = root.front := by
    have := @rdropWhile_append (root.scheme ++ ['/', '/']) _ _ root.server_some server
    simpa [front] using this
  rw [baseAddress, text, String.toList_ofList, List.reverse_append, List.reverse_replicate, slashes]
  exact congrArg String.ofList kept

/-- A path that does not end in a blank is part of the address to its end. -/
theorem charsOf_front {rest : List Char} (printed : ∀ c ∈ '/' :: rest, 0x20 < c.toNat) :
    ∃ scheme server, '/' ∉ scheme ∧ (∀ c ∈ server, c ∉ ['/', '\\', '?', '#']) ∧
      Url.charsOf (String.ofList (root.front ++ '/' :: rest)) =
        scheme ++ '/' :: '/' :: (server ++ '/' :: rest) := by
  let keeps : Char → Bool := fun c => !(['\t', '\n', '\r'].contains c)
  have solid : ∀ c ∈ '/' :: rest, Url.isBlank c = false := fun c inside =>
    decide_eq_false (Nat.not_le.mpr (printed c inside))
  have starts : (root.front ++ '/' :: rest).dropWhile Url.isBlank =
      root.scheme.dropWhile Url.isBlank ++ '/' :: '/' :: root.server ++ '/' :: rest := by
    rw [front, List.append_assoc, List.append_assoc, List.dropWhile_append]
    split
    · next none => rw [List.isEmpty_iff.mp none]; rfl
    · rfl
  have ends : ∀ front : List Char, ((front ++ '/' :: rest).reverse.dropWhile Url.isBlank).reverse =
      front ++ '/' :: rest := fun _ => rdropWhile_append (List.cons_ne_nil _ _) solid
  have kept : ('/' :: rest).filter keeps = '/' :: rest := by
    refine List.filter_eq_self.mpr fun c inside => ?_
    have breaks : ∀ c ∈ ['\t', '\n', '\r'], c.toNat ≤ 0x20 := by simp
    have apart : c ∉ ['\t', '\n', '\r'] := fun blank =>
      absurd (printed c inside) (Nat.not_lt.mpr (breaks c blank))
    simpa [keeps] using apart
  refine ⟨(root.scheme.dropWhile Url.isBlank).filter keeps, root.server.filter keeps, ?_, ?_, ?_⟩
  · exact fun slash => root.scheme_apart
      ((List.dropWhile_sublist _).mem (List.mem_of_mem_filter slash))
  · exact fun c inside => root.server_apart c (List.mem_of_mem_filter inside)
  · rw [Url.charsOf, String.toList_ofList, starts, ends]
    show List.filter keeps _ = _
    rw [List.filter_append, kept, List.filter_append, List.append_assoc]
    rfl

/-- What is asked for at a server is the path behind its address. -/
theorem target_ofText {rest : List Char}
    (printed : ∀ c ∈ '/' :: rest, 0x20 < c.toNat ∧ c ≠ '?' ∧ c ≠ '#') :
    (Url.ofText (String.ofList (root.front ++ '/' :: rest))).target =
      Url.pathOf ('/' :: rest) := by
  obtain ⟨scheme, server, schemeApart, serverApart, chars⟩ :=
    root.charsOf_front fun c inside => (printed c inside).1
  have named : ∀ more, (scheme ++ '/' :: more).takeWhile (· != '/') = scheme := fun more =>
    takeWhile_digits (fun c inside => bne_iff_ne.mpr fun slash => schemeApart (slash ▸ inside))
      (by simp)
  have behind : ∀ more : List Char,
      (scheme ++ '/' :: '/' :: more).drop (scheme.length + 2) = more := fun more => by
    simp [List.drop_append]
  have served : (server ++ '/' :: rest).takeWhile
      (fun c => !(['/', '\\', '?', '#'].contains c)) = server :=
    takeWhile_digits (fun c inside => by simpa using serverApart c inside) (by simp)
  have whole : ('/' :: rest).takeWhile (fun c => c != '?' && c != '#') = '/' :: rest :=
    List.takeWhile_eq_self_iff.mpr fun c inside => by simpa using (printed c inside).2
  simp only [Url.ofText, chars, named, behind, served, List.drop_left, whole,
    List.drop_length, List.takeWhile_nil, List.isEmpty_nil, if_true, Url.target]
  simp

/-- A path of plain segments arrives at the server with these segments. -/
theorem segments?_target {segments : List (List Char)} (filled : segments ≠ [])
    (plain : ∀ segment ∈ segments, Url.Plain segment) :
    Path.segments? (Url.ofText (baseAddress root.text ++
      String.ofList (Url.pathText segments))).target = some (segments.map String.ofList) := by
  have printed : ∀ c ∈ Url.pathText segments, 0x20 < c.toNat ∧ c ≠ '?' ∧ c ≠ '#' := by
    intro c inside
    rcases Url.mem_pathText plain inside with rfl | plain
    · decide
    · exact ⟨(Url.isPlain_toNat plain).1, (Url.isPlain_inert plain).apart.2.2⟩
  rw [baseAddress_text, ← String.ofList_append, Url.pathText, target_ofText root printed,
    ← Url.pathText, Url.pathOf_pathText filled plain, Path.segments?_pathText filled plain]

end RootAddress

end AccountLedger
