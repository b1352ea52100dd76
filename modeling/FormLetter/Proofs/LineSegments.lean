import FormLetter.Proofs.LineRecord
import FormLetter.Proofs.RecipientLines
import FormLetter.Proofs.Trimming

/-!
# The segments of a line

A line is trimmed as a whole before it is cut at its bars, so that the last
segment loses the blanks at its end and the others keep theirs. What a segment
gives does not depend on these blanks, and so neither does what is read.

Results:

* `trimEnd_append_cons`: trimming at the end does not reach over a character
  that is no blank.
* `field?_trimEnd`: a segment gives the same with and without the blanks at its
  end.
* `read_join`: an address and segments, joined by bars, are read as such.
-/

namespace FormLetter

namespace Text

/-! ## Trimming at the end -/

theorem trimEnd_concat (t : Text) (c : Char) :
    trimEnd (t ++ [c]) = if isBlank c = true then trimEnd t else t ++ [c] :=
  List.rdropWhile_concat isBlank t c

theorem trimEnd_append_cons {c : Char} (h : isBlank c = false) (s t : Text) :
    trimEnd (s ++ c :: t) = s ++ c :: trimEnd t := by
  induction t using List.reverseRecOn with
  | nil =>
    rw [trimEnd_concat, if_neg (by simp [h])]
    rfl
  | append_singleton t d ih =>
    have hassoc : s ++ c :: (t ++ [d]) = (s ++ c :: t) ++ [d] := by simp
    rw [hassoc, trimEnd_concat, trimEnd_concat, ih]
    split_ifs
    · rfl
    · rw [hassoc]

theorem trim_concat {c : Char} (h : isBlank c = true) (t : Text) : trim (t ++ [c]) = trim t := by
  rw [trim, trimStart, List.dropWhile_append]
  split_ifs with hempty
  · rw [List.isEmpty_iff] at hempty
    rw [trim, trimStart, hempty, List.dropWhile_cons_of_pos h, List.dropWhile_nil]
  · rw [trimEnd_concat, if_pos h]
    rfl

theorem trim_trimEnd (t : Text) : trim (trimEnd t) = trim t := by
  induction t using List.reverseRecOn with
  | nil => rfl
  | append_singleton t c ih =>
    rw [trimEnd_concat]
    split_ifs with hc
    · rw [ih, trim_concat hc]
    · rfl

theorem mem_of_mem_trimEnd {t : Text} {c : Char} (h : c ∈ trimEnd t) : c ∈ t :=
  (List.rdropWhile_prefix isBlank t).subset h

/-! ## Joined texts -/

theorem join_cons (sep : Char) (first t : Text) (others : List Text) :
    join sep first (t :: others) = first ++ sep :: join sep t others := by
  simp [join]

/-- Joined texts begin as the first of them, or with the separator. -/
theorem head_join {sep : Char} {p : Char → Prop} {first : Text} (hsep : p sep)
    (hfirst : ∀ c ∈ first.head?, p c) (others : List Text) :
    ∀ c ∈ (join sep first others).head?, p c := by
  cases first with
  | nil =>
    cases others with
    | nil => exact hfirst
    | cons t others =>
      rintro c hc
      obtain rfl : sep = c := Option.some.inj hc
      exact hsep
  | cons d first => exact hfirst

end Text

namespace Recipient

/-! ## Fields -/

theorem field?_trimEnd (segment : Text) : field? segment.trimEnd = field? segment := by
  cases hcut : segment.cut? '=' with
  | none =>
    have hcut' : segment.trimEnd.cut? '=' = none := Text.cut?_eq_none_iff.mpr fun hmem =>
      Text.cut?_eq_none_iff.mp hcut (Text.mem_of_mem_trimEnd hmem)
    rw [field?, field?, hcut, hcut']
  | some sides =>
    obtain ⟨left, right⟩ := sides
    obtain ⟨rfl, hleft⟩ := Text.eq_of_cut? hcut
    have hcut' : (left ++ '=' :: right).trimEnd.cut? '=' = some (left, right.trimEnd) := by
      rw [Text.trimEnd_append_cons (by decide), Text.cut?_eq_some_iff]
      exact ⟨rfl, hleft⟩
    rw [field?, field?, hcut, hcut', Option.map_some, Option.map_some, Text.trim_trimEnd]

/-- Cutting joined segments after trimming them at the end changes no more than
the blanks at the end of the last one. -/
theorem filterMap_field?_split_trimEnd {segment : Text} {segments : List Text}
    (h : ∀ s ∈ segment :: segments, '|' ∉ s) :
    let parts := (Text.join '|' segment segments).trimEnd.split '|'
    (parts.1 :: parts.2).filterMap field? = (segment :: segments).filterMap field? := by
  induction segments generalizing segment with
  | nil =>
    have hsegment : '|' ∉ segment.trimEnd := fun hmem =>
      h segment List.mem_cons_self (Text.mem_of_mem_trimEnd hmem)
    simp only [Text.join, List.flatMap_nil, List.append_nil, Text.split_of_not_mem hsegment]
    rw [List.filterMap_cons, List.filterMap_cons, field?_trimEnd]
  | cons next segments ih =>
    obtain ⟨hsegment, hsegments⟩ := List.forall_mem_cons.mp h
    have hsplit : (Text.join '|' segment (next :: segments)).trimEnd.split '|' =
        (segment, ((Text.join '|' next segments).trimEnd.split '|').1 ::
          ((Text.join '|' next segments).trimEnd.split '|').2) := by
      rw [Text.join_cons, Text.trimEnd_append_cons (by decide), Text.split_append_cons,
        Text.split_of_not_mem hsegment, List.nil_append]
    simp only [hsplit]
    rw [List.filterMap_cons, ih hsegments, ← List.filterMap_cons]

/-! ## Lines -/

namespace Line

variable {address segment : Text} {segments : List Text}

/-- A bar keeps the blanks at the end of the address. -/
theorem read_join_cons (hhead : ∀ c ∈ address.head?, Text.isBlank c = false)
    (haddress : '|' ∉ address) (hsegments : ∀ s ∈ segment :: segments, '|' ∉ s) :
    read (Text.join '|' address (segment :: segments)) =
      ⟨address, (segment :: segments).filterMap field?⟩ := by
  have hstart : (Text.join '|' address (segment :: segments)).trimStart =
      Text.join '|' address (segment :: segments) :=
    Text.dropWhile_eq_self (Text.head_join (by decide) hhead _)
  rw [read, Text.trim, hstart, Text.join_cons, Text.trimEnd_append_cons (by decide),
    Text.split_append_cons, Text.split_of_not_mem haddress, List.nil_append]
  exact congrArg (Line.mk address) (filterMap_field?_split_trimEnd hsegments)

theorem read_join (htrim : Text.IsTrimmed address) (haddress : '|' ∉ address)
    (hsegments : ∀ s ∈ segments, '|' ∉ s) :
    read (Text.join '|' address segments) = ⟨address, segments.filterMap field?⟩ := by
  cases segments with
  | nil =>
    rw [Text.join, List.flatMap_nil, List.append_nil, read, htrim.trim_eq,
      Text.split_of_not_mem haddress, List.filterMap_nil]
  | cons segment segments => exact read_join_cons htrim.head haddress hsegments

end Line

end Recipient

end FormLetter
