import FormLetter.Proofs.CanonicalLine

/-!
# Files of recipients

A file gives the recipients on its lines, one by one. What is read of it does
not depend on how its lines end, on blanks around them and on empty lines
between them, and files can be cut and joined at their line feeds.

Specification: `Text.lines` are the lines of a text with the ends that texts
have on different systems, `Text.withReturns` puts a carriage return before
every line feed, and `IsRecipientLine` says of a text that it can be a line of
its own as it stands.

Results:

* `recipientLines_eq_trimmed_lines`: the recipients of a file are its lines
  without the blanks around them, blank ones left out.
* `isRecipientLine_of_mem`: they are as they can stand on lines of their own.
* `recipientLines_intercalate_of_isRecipientLine`: such texts are read back.
* `recipientLines_withReturns`: carriage returns do not matter.
* `recipient_files_compose`: all of it together.
-/

namespace FormLetter

/-! ## Specification -/

namespace Text

/-- A line without the carriage return that belongs to its end. -/
def withoutReturn (line : Text) : Text :=
  if line.getLast? = some '\r' then line.dropLast else line

/-- The lines among the texts between line feeds: each but the last one is
ended, and the last one is no line if it is empty. -/
def linesOf : Text → List Text → List Text
  | last, [] => if last = [] then [] else [last]
  | line, next :: others => withoutReturn line :: linesOf next others

/-- The lines of a text. A line feed ends a line, or a carriage return and a
line feed do; the end of the last line may be missing. -/
def lines (t : Text) : List Text := linesOf (split '\n' t).1 (split '\n' t).2

/-- The text with a carriage return before every line feed. -/
def withReturns (t : Text) : Text := t.flatMap fun c => if c = '\n' then ['\r', '\n'] else [c]

end Text

/-- The text can be the line of a recipient as it stands. -/
structure IsRecipientLine (t : Text) : Prop where
  ne_nil : t ≠ []
  lineFeed_notMem : '\n' ∉ t
  isTrimmed : Text.IsTrimmed t

namespace Text

/-! ## Trimmed texts -/

theorem mem_trimmed {texts : List Text} {t : Text} :
    t ∈ trimmed texts ↔ t ≠ [] ∧ ∃ s ∈ texts, trim s = t := by
  rw [← filter_map_trim, List.mem_filter, List.mem_map, and_comm]
  simp

theorem trimmed_singleton_congr {s t : Text} (h : trim s = trim t) : trimmed [s] = trimmed [t] := by
  rw [← filter_map_trim, ← filter_map_trim, List.map_singleton, List.map_singleton, h]

theorem trimmed_cons (t : Text) (texts : List Text) :
    trimmed (t :: texts) = trimmed [t] ++ trimmed texts := by
  rw [← trimmed_append, List.singleton_append]

theorem trimmed_eq_self {texts : List Text} (h : ∀ t ∈ texts, t ≠ [] ∧ trim t = t) :
    trimmed texts = texts := by
  have hmap : texts.map trim = texts := by
    rw [List.map_congr_left fun t ht => (h t ht).2, List.map_id']
  rw [← filter_map_trim, hmap, List.filter_eq_self]
  intro t ht
  simpa using (h t ht).1

/-! ## Ends of lines -/

theorem trim_concat_return (t : Text) : trim (t ++ ['\r']) = trim t :=
  trim_concat (by decide) t

theorem trim_withoutReturn (line : Text) : trim (withoutReturn line) = trim line := by
  rw [withoutReturn]
  split_ifs with h
  · obtain ⟨t, rfl⟩ := List.getLast?_eq_some_iff.mp h
    rw [List.dropLast_concat, trim_concat_return]
  · rfl

theorem trimmed_linesOf (line : Text) (others : List Text) :
    trimmed (linesOf line others) = trimmed (line :: others) := by
  induction others generalizing line with
  | nil =>
    rw [linesOf]
    split_ifs with h
    · rw [h]
      rfl
    · rfl
  | cons next others ih =>
    rw [linesOf, trimmed_cons, ih, trimmed_cons line,
      trimmed_singleton_congr (trim_withoutReturn line)]

theorem withReturns_cons (c : Char) (t : Text) :
    withReturns (c :: t) = (if c = '\n' then ['\r', '\n'] else [c]) ++ withReturns t :=
  List.flatMap_cons

/-- Behind the beginning of a line, carriage returns before the line feeds do
not matter. -/
theorem trimmedLines_append_withReturns {s : Text} (hs : '\n' ∉ s) (t : Text) :
    trimmedLines (s ++ withReturns t) = trimmedLines (s ++ t) := by
  induction t generalizing s with
  | nil => rfl
  | cons c t ih =>
    rw [withReturns_cons]
    by_cases hc : c = '\n'
    · -- the line ends here, and its carriage return is trimmed away
      subst hc
      have hreturn : '\n' ∉ s ++ ['\r'] := by simpa using hs
      have hline : trimmedLines (s ++ ['\r']) = trimmedLines s := by
        rw [trimmedLines_of_not_mem hreturn, trimmedLines_of_not_mem hs,
          trimmed_singleton_congr (trim_concat_return s)]
      have hassoc : s ++ (['\r', '\n'] ++ withReturns t) =
          (s ++ ['\r']) ++ '\n' :: withReturns t := by simp
      have hrest : trimmedLines (withReturns t) = trimmedLines t :=
        @ih [] List.not_mem_nil
      rw [if_pos rfl, hassoc, trimmedLines_append_cons, trimmedLines_append_cons, hline, hrest]
    · have hline : '\n' ∉ s ++ [c] := by simpa [hs] using Ne.symm hc
      rw [if_neg hc, ← List.append_assoc, ih hline, List.append_assoc, List.singleton_append]

end Text

/-! ## Recipients -/

theorem recipientLines_eq_trimmed_lines (file : Text) :
    recipientLines file = Text.trimmed file.lines := by
  rw [recipientLines, Text.trimmedLines_eq_trimmed, Text.lines, Text.trimmed_linesOf]

theorem isRecipientLine_of_mem {file line : Text} (h : line ∈ recipientLines file) :
    IsRecipientLine line := by
  rw [recipientLines, Text.trimmedLines_eq_trimmed] at h
  obtain ⟨hne, part, hpart, rfl⟩ := Text.mem_trimmed.mp h
  refine ⟨hne, fun hmem => ?_, Text.isTrimmed_trim part⟩
  exact Text.notMem_of_mem_split hpart (Text.mem_of_mem_trim hmem)

theorem recipientLines_intercalate_of_isRecipientLine {lines : List Text}
    (h : ∀ line ∈ lines, IsRecipientLine line) :
    recipientLines (['\n'].intercalate lines) = lines := by
  rw [recipientLines_intercalate fun line hline => (h line hline).lineFeed_notMem]
  exact Text.trimmed_eq_self fun line hline =>
    ⟨(h line hline).ne_nil, (h line hline).isTrimmed.trim_eq⟩

theorem recipientLines_withReturns (file : Text) :
    recipientLines file.withReturns = recipientLines file :=
  Text.trimmedLines_append_withReturns List.not_mem_nil file

/-- **Files.** The recipients of a file are its lines, trimmed and without the
blank ones. A file that is joined of two with a line feed has the recipients of
the one and then those of the other. A recipient is never empty, has no line
feed and neither starts nor ends with a blank; texts like this are read back
when they are joined with line feeds, and so are the recipients of a file. It
makes no difference whether line feeds or carriage returns and line feeds end
the lines. -/
theorem recipient_files_compose :
    (∀ file, recipientLines file = Text.trimmed file.lines) ∧
    (∀ file other : Text,
      recipientLines (file ++ '\n' :: other) = recipientLines file ++ recipientLines other) ∧
    (∀ file, ∀ line ∈ recipientLines file, IsRecipientLine line) ∧
    (∀ lines : List Text, (∀ line ∈ lines, IsRecipientLine line) →
      recipientLines (['\n'].intercalate lines) = lines) ∧
    (∀ file, recipientLines (['\n'].intercalate (recipientLines file)) = recipientLines file) ∧
    ∀ file : Text, recipientLines file.withReturns = recipientLines file := by
  refine ⟨recipientLines_eq_trimmed_lines, Text.trimmedLines_append_cons,
    fun _ _ => isRecipientLine_of_mem,
    fun _ => recipientLines_intercalate_of_isRecipientLine, fun file => ?_,
    recipientLines_withReturns⟩
  exact recipientLines_intercalate_of_isRecipientLine fun _ => isRecipientLine_of_mem

/-- Two recipients with blanks and a bare carriage return inside, which are
read back with either end of lines. -/
theorem recipient_files_compose_of_inner_return :
    let lines : List Text := ["a@b.c|city = Oslo".toList, "c\r@d\u00A0e".toList]
    let file : Text := ['\n'].intercalate lines
    (∀ line ∈ lines, IsRecipientLine line) ∧ recipientLines file = lines ∧
      recipientLines (file ++ '\n' :: file.withReturns) = lines ++ lines := by
  intro lines file
  have hlines : ∀ line ∈ lines, IsRecipientLine line := by
    have hclosed : ∀ line ∈ lines, line ≠ [] ∧ '\n' ∉ line := by decide +kernel
    have htrim : ∀ line ∈ lines, Text.trim line = line := by decide +kernel
    intro line hline
    obtain ⟨hne, hfeed⟩ := hclosed line hline
    exact ⟨hne, hfeed, Text.trim_eq_self_iff.mp (htrim line hline)⟩
  obtain ⟨-, happend, -, hread, -, hreturns⟩ := recipient_files_compose
  refine ⟨hlines, hread lines hlines, ?_⟩
  rw [happend, hreturns, hread lines hlines]

end FormLetter
