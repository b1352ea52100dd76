import FormLetter.Proofs.AddressValues
import FormLetter.Proofs.MergedMessages
import FormLetter.Proofs.RecipientFiles
import FormLetter.Proofs.TitleCase

/-!
# Line feeds in headers

The address and the subject of a message go into its header, which a line feed
would end. A line of a file of recipients has no line feed, and none comes in on
the way from the line to the header: not by cutting and trimming, not by title
case, not from the clock, and not by resolving a subject that has none itself.

Specification: `Record.ValuesAre` says of all values of a record that they have
a property.

Results:

* `ValuesAre.putBuiltins`, `ValuesAre.putFields`: a property of all values that
  are set is one of the record.
* `notMem_message_resolve`: a character that neither the template nor a value
  has is not in the message.
* `lineFeed_notMem_derived`: what is derived from an address without line feeds
  has none.
* `valuesAre_record`: the values of a line without line feeds have none.
* `headers_have_no_lineFeed`: nor do addresses and subjects of messages.
-/

namespace FormLetter

/-! ## Specification -/

/-- All values of the record have a property. -/
def Record.ValuesAre (p : Text → Prop) (record : Record) : Prop :=
  ∀ entry ∈ record.entries, p entry.2

/-! ## Values of records -/

theorem Variables.mem_put {name value : Text} {entries : List (Text × Text)} {entry : Text × Text}
    (h : entry ∈ put name value entries) : entry = (name, value) ∨ entry ∈ entries := by
  induction entries with
  | nil => exact .inl (List.mem_singleton.mp h)
  | cons first rest ih =>
    obtain ⟨n, v⟩ := first
    rw [put] at h
    split_ifs at h
    · exact List.mem_cons.mp h
    · exact (List.mem_cons.mp h).imp_right (List.mem_cons_of_mem _)
    · rcases List.mem_cons.mp h with rfl | h
      · exact .inr List.mem_cons_self
      · exact (ih h).imp_right (List.mem_cons_of_mem _)

namespace Record

variable {p : Text → Prop} {record : Record}

/-- What is set has the property, and so has the record with it. -/
theorem ValuesAre.of_put (h : record.ValuesAre p) {name value : Text} (hvalue : p value) :
    ∀ entry ∈ Variables.put name value record.entries, p entry.2 := by
  intro entry hentry
  rcases Variables.mem_put hentry with rfl | hentry
  · exact hvalue
  · exact h entry hentry

theorem ValuesAre.putBuiltins (h : record.ValuesAre p) {value : Builtin → Text}
    (hvalue : ∀ b, p (value b)) (builtins : List Builtin) :
    (record.putBuiltins value builtins).ValuesAre p := by
  induction builtins generalizing record with
  | nil => exact h
  | cons b builtins ih => exact ih (h.of_put (hvalue b))

theorem ValuesAre.putFields (h : record.ValuesAre p) {fields : List (Text × Text)}
    (hfields : ∀ field ∈ fields, p field.2) : (record.putFields fields).ValuesAre p := by
  induction fields generalizing record with
  | nil => exact h
  | cons field fields ih =>
    obtain ⟨hfield, hrest⟩ := List.forall_mem_cons.mp hfields
    exact ih (h.of_put hfield) hrest

theorem ValuesAre.get (h : record.ValuesAre p) (hnil : p []) (name : Text) :
    p (record.get name) := by
  rw [Record.get, get?]
  cases hlookup : record.entries.lookup name.lower with
  | none => exact hnil
  | some value => exact h _ (Variables.mem_of_lookup_eq_some hlookup)

theorem notMem_message_resolve {c : Char} (h : record.ValuesAre (c ∉ ·)) {template : Text}
    (htemplate : c ∉ template) : c ∉ (record.resolve template).message := by
  intro hmem
  obtain ⟨piece, hpiece, hc⟩ := List.mem_flatMap.mp hmem
  cases piece with
  | literal d =>
    refine htemplate ?_
    rw [← Template.flatMap_text_pieces template]
    exact List.mem_flatMap.mpr ⟨_, hpiece, hc⟩
  | placeholder p => exact h.get List.not_mem_nil p.name hc

end Record

/-! ## Parts of texts -/

namespace Text

theorem mem_of_mem_split {sep c : Char} {t part : Text}
    (h : part ∈ (split sep t).1 :: (split sep t).2) (hc : c ∈ part) : c ∈ t := by
  have hjoin : c ∈ join sep (split sep t).1 (split sep t).2 := by
    rw [join, List.mem_append]
    rcases List.mem_cons.mp h with rfl | h
    · exact .inl hc
    · exact .inr (List.mem_flatMap.mpr ⟨part, h, List.mem_cons_of_mem sep hc⟩)
  rwa [join_split] at hjoin

theorem notMem_getElem?_getD {c : Char} {texts : List Text} {default : Text}
    (h : ∀ t ∈ default :: texts, c ∉ t) (i : ℕ) : c ∉ (texts[i]?).getD default := by
  obtain ⟨hdefault, htexts⟩ := List.forall_mem_cons.mp h
  cases ht : texts[i]? with
  | none => exact hdefault
  | some t => exact htexts t (List.mem_of_getElem? ht)

theorem lineFeed_notMem_titleCase {t : Text} (h : '\n' ∉ t) : '\n' ∉ titleCase t :=
  fun hmem => h (mem_of_mem_titleCase hmem rfl)

theorem lineFeed_notMem_firstPart {t : Text} (h : '\n' ∉ t) : '\n' ∉ firstPart t :=
  fun hmem => h ((List.takeWhile_sublist _).subset hmem)

theorem lineFeed_notMem_secondPart {t : Text} (h : '\n' ∉ t) : '\n' ∉ secondPart t :=
  lineFeed_notMem_firstPart fun hmem =>
    h ((List.dropWhile_sublist _).subset (List.mem_of_mem_drop hmem))

theorem lineFeed_notMem_padded (width n : ℕ) : '\n' ∉ padded width n :=
  fun hmem => absurd (isDigit_of_mem_padded hmem) (by decide)

end Text

/-! ## The clock -/

namespace Calendar.Instant

variable (t : Instant)

theorem lineFeed_notMem_yearText : '\n' ∉ t.yearText := by
  have hdigits := Text.lineFeed_notMem_padded 4 t.year.natAbs
  rw [yearText]
  split_ifs
  · simpa using hdigits
  · exact hdigits
  · simpa using hdigits

theorem lineFeed_notMem_dateText : '\n' ∉ t.dateText := by
  simp [dateText, lineFeed_notMem_yearText, Text.lineFeed_notMem_padded]

theorem lineFeed_notMem_timeText : '\n' ∉ t.timeText := by
  simp [timeText, lineFeed_notMem_dateText, Text.lineFeed_notMem_padded]

theorem lineFeed_notMem_weekday : '\n' ∉ t.weekday :=
  Text.notMem_getElem?_getD (by decide) _

theorem lineFeed_notMem_monthName : '\n' ∉ t.monthName :=
  Text.notMem_getElem?_getD (by decide) _

end Calendar.Instant

/-! ## Addresses -/

namespace Recipient.Address

variable {address : Text}

theorem lineFeed_notMem_mailbox_host (h : '\n' ∉ address) :
    '\n' ∉ mailbox address ∧ '\n' ∉ host address := by
  by_cases hat : '@' ∈ address
  · rw [← (mailbox_append_host hat).1, List.mem_append, List.mem_cons, not_or, not_or] at h
    exact ⟨h.1, h.2.2⟩
  · obtain ⟨hmailbox, hhost⟩ := mailbox_host_of_notMem hat
    rw [hmailbox, hhost]
    decide

theorem lineFeed_notMem_domain (h : '\n' ∉ address) : '\n' ∉ domain address := fun hmem =>
  (lineFeed_notMem_mailbox_host h).2 (Text.mem_of_mem_split List.mem_cons_self hmem)

end Recipient.Address

namespace Context

open Recipient.Address

variable {context : Context}

theorem lineFeed_notMem_derived (hbase : '\n' ∉ context.unsubscribeBase) {address : Text}
    (h : '\n' ∉ address) (b : Builtin) : '\n' ∉ context.derived address b := by
  obtain ⟨hmailbox, hhost⟩ := lineFeed_notMem_mailbox_host h
  cases b with
  | email | recipientEmail => exact h
  | emailname => exact hmailbox
  | domain => exact lineFeed_notMem_domain h
  | fullDomain => exact hhost
  | time => exact context.now.lineFeed_notMem_timeText
  | date => exact context.now.lineFeed_notMem_dateText
  | day => exact context.now.lineFeed_notMem_weekday
  | month => exact context.now.lineFeed_notMem_monthName
  | year => exact context.now.lineFeed_notMem_yearText
  | firstname =>
    rw [derived, firstName_eq]
    exact Text.lineFeed_notMem_titleCase (Text.lineFeed_notMem_firstPart hmailbox)
  | lastname =>
    rw [derived, lastName_eq]
    exact Text.lineFeed_notMem_titleCase (Text.lineFeed_notMem_secondPart hmailbox)
  | company => exact Text.lineFeed_notMem_titleCase (lineFeed_notMem_domain h)
  | randomNumber => exact Text.lineFeed_notMem_padded _ _
  | unsubscribe => simp [derived, hbase, h]

end Context

/-! ## Lines -/

namespace Recipient.Line

variable {raw : Text} {c : Char}

theorem mem_of_mem_address (h : c ∈ (read raw).address) : c ∈ raw :=
  Text.mem_of_mem_trim (Text.mem_of_mem_split List.mem_cons_self h)

theorem mem_of_mem_value {field : Text × Text} (hfield : field ∈ (read raw).fields)
    (h : c ∈ field.2) : c ∈ raw := by
  obtain ⟨segment, hsegment, hread⟩ := List.mem_filterMap.mp hfield
  obtain ⟨left, right, rfl, -, -, hvalue⟩ := field?_eq_some_iff.mp hread
  have hc : c ∈ left ++ '=' :: right := by
    rw [← hvalue] at h
    exact List.mem_append_right left (List.mem_cons_of_mem _ (Text.mem_of_mem_trim h))
  exact Text.mem_of_mem_trim (Text.mem_of_mem_split (List.mem_cons_of_mem _ hsegment) hc)

end Recipient.Line

theorem Context.valuesAre_record {context : Context} (hbase : '\n' ∉ context.unsubscribeBase)
    {raw : Text} (h : '\n' ∉ raw) : (context.record raw).ValuesAre ('\n' ∉ ·) := by
  rw [record, lineRecord, addressRecord_eq]
  refine Record.ValuesAre.putFields (Record.ValuesAre.putBuiltins ?_ ?_ _) ?_
  · exact fun _ hentry => absurd hentry List.not_mem_nil
  · exact lineFeed_notMem_derived hbase fun hmem => h (Recipient.Line.mem_of_mem_address hmem)
  · exact fun _ hfield hmem => h (Recipient.Line.mem_of_mem_value hfield hmem)

/-! ## Messages -/

namespace Mailing

variable {mailing : Mailing}

theorem lineFeed_notMem_subjectFor (h : ∀ subject ∈ mailing.subjects, '\n' ∉ subject)
    (index : ℕ) : '\n' ∉ mailing.subjectFor index :=
  Text.notMem_getElem?_getD (List.forall_mem_cons.mpr ⟨by decide, h⟩) _

/-- **Headers.** If neither the page on which recipients unsubscribe nor a
subject has a line feed, then no file of recipients brings one into the address
or the subject of a message, whatever the clock shows and whatever the body is;
no value of a record that is made of one of its lines has a line feed. -/
theorem headers_have_no_lineFeed (mailing : Mailing) (merger : Merger)
    (hbase : '\n' ∉ merger.unsubscribeBase)
    (hsubjects : ∀ subject ∈ mailing.subjects, '\n' ∉ subject) (file : Text) :
    (∀ m ∈ mailing.merge merger (recipientLines file), '\n' ∉ m.email ∧ '\n' ∉ m.subject) ∧
      ∀ line ∈ recipientLines file, ∀ reading,
        ∀ entry ∈ ((merger.context reading).record line).entries, '\n' ∉ entry.2 := by
  have hvalues : ∀ line ∈ recipientLines file, ∀ reading,
      ((merger.context reading).record line).ValuesAre ('\n' ∉ ·) := fun _ hline _ =>
    Context.valuesAre_record hbase (isRecipientLine_of_mem hline).lineFeed_notMem
  refine ⟨fun m hm => ?_, hvalues⟩
  obtain ⟨line, hline, index, rfl⟩ := mailing.exists_of_mem_merge merger hm
  have hline := hvalues line hline index
  exact ⟨hline.get List.not_mem_nil _,
    Record.notMem_message_resolve hline (lineFeed_notMem_subjectFor hsubjects index)⟩

/-- A file whose lines end in two ways and hold a field for the address; the
body has a line feed, and it stays in the body. -/
theorem headers_have_no_lineFeed_of_body :
    let context : Context := ⟨⟨2024, 1, 1, 0, 0, 0, 0⟩, Context.defaultUnsubscribeBase⟩
    let mailing : Mailing := ⟨["Hi \x7bfirstname\x7d".toList], "Dear\n\x7bnote\x7d".toList⟩
    let file := "a.b@c|Email = x\x0by\r\n|note=z\n".toList
    '\n' ∉ context.unsubscribeBase ∧ (∀ subject ∈ mailing.subjects, '\n' ∉ subject) ∧
      (mailing.merge context (recipientLines file)).length = 2 ∧
      ∀ m ∈ mailing.merge context (recipientLines file),
        '\n' ∉ m.email ∧ '\n' ∉ m.subject ∧ '\n' ∈ m.body := by
  intro context mailing file
  have hbase : '\n' ∉ context.unsubscribeBase := by decide
  have hsubjects : ∀ subject ∈ mailing.subjects, '\n' ∉ subject := by decide
  have hbody : ∀ m ∈ mailing.merge context (recipientLines file), '\n' ∈ m.body := by
    decide +kernel
  obtain ⟨hheaders, -⟩ := headers_have_no_lineFeed mailing context hbase hsubjects file
  refine ⟨hbase, hsubjects, by decide +kernel, fun m hm => ?_⟩
  obtain ⟨hemail, hsubject⟩ := hheaders m hm
  exact ⟨hemail, hsubject, hbody m hm⟩

end Mailing

end FormLetter
