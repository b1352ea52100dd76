import FormLetter.Catalogue
import FormLetter.Recipient.Build
import Mathlib.Data.List.Nodup
import Mathlib.Data.Nat.Notation

/-!
# Built-in variables

The catalogue lists the built-in variables for the help pages, and a record
starts with a value for each of them. These are two lists, and every statement
about built-in variables relies on their having the same names in the same
order.

Specification: `Builtin` names the built-in variables, and `Context.derived`
says what they stand for.

Results:

* `map_name_builtins`: the catalogue lists these variables.
* `derivedVariables_eq`: a record starts with a value for each of them.
* `map_fst_derivedVariables`: the names in both lists agree.
-/

namespace FormLetter

/-! ## Specification -/

/-- A variable that every recipient has. -/
inductive Builtin
  | email
  | recipientEmail
  | emailname
  | domain
  | fullDomain
  | time
  | date
  | day
  | month
  | year
  | firstname
  | lastname
  | company
  | randomNumber
  | unsubscribe
  deriving DecidableEq, Repr

namespace Builtin

/-- The built-in variables in the order of the catalogue. -/
def all : List Builtin :=
  [email, recipientEmail, emailname, domain, fullDomain, time, date, day, month, year, firstname,
    lastname, company, randomNumber, unsubscribe]

theorem mem_all (b : Builtin) : b ∈ all := by cases b <;> decide

/-- The name under which templates use the variable. -/
def name : Builtin → Text
  | email => "email".toList
  | recipientEmail => "recipient_email".toList
  | emailname => "emailname".toList
  | domain => "domain".toList
  | fullDomain => "full_domain".toList
  | time => "time".toList
  | date => "date".toList
  | day => "day".toList
  | month => "month".toList
  | year => "year".toList
  | firstname => "firstname".toList
  | lastname => "lastname".toList
  | company => "company".toList
  | randomNumber => "random_number".toList
  | unsubscribe => "unsubscribe".toList

end Builtin

/-- The value of a built-in variable for an address. -/
def Context.derived (context : Context) (address : Text) : Builtin → Text
  | .email => address
  | .recipientEmail => address
  | .emailname => Recipient.Address.mailbox address
  | .domain => Recipient.Address.domain address
  | .fullDomain => Recipient.Address.host address
  | .time => context.now.timeText
  | .date => context.now.dateText
  | .day => context.now.weekday
  | .month => context.now.monthName
  | .year => context.now.yearText
  | .firstname => Recipient.Address.firstName address
  | .lastname => Recipient.Address.lastName address
  | .company => Recipient.Address.company address
  | .randomNumber => Recipient.Address.digits address
  | .unsubscribe => context.unsubscribeBase ++ "?email=".toList ++ address

/-! ## Names -/

namespace Builtin

theorem nodup_map_name : (all.map name).Nodup := by decide +kernel

theorem name_injective : Function.Injective name := fun a b h =>
  List.inj_on_of_nodup_map nodup_map_name (mem_all a) (mem_all b) h

end Builtin

/-! ## Both lists -/

namespace Catalogue

theorem map_name_builtins : builtins.map CatalogueEntry.name = Builtin.all.map Builtin.name := by
  decide

theorem exists_name_eq {e : CatalogueEntry} (h : e ∈ builtins) :
    ∃ b : Builtin, b.name = e.name := by
  have hname : e.name ∈ Builtin.all.map Builtin.name := by
    rw [← map_name_builtins]
    exact List.mem_map_of_mem h
  obtain ⟨b, -, hb⟩ := List.mem_map.mp hname
  exact ⟨b, hb⟩

theorem asciiLower_name : ∀ e ∈ builtins, e.name.asciiLower = e.name := by decide

end Catalogue

namespace Context

variable (context : Context) (address : Text)

theorem derivedVariables_eq : context.derivedVariables address =
    Builtin.all.map fun b => (b.name, context.derived address b) :=
  rfl

/-- The names in both lists agree. -/
theorem map_fst_derivedVariables :
    (context.derivedVariables address).map Prod.fst =
      Catalogue.builtins.map CatalogueEntry.name := by
  rw [derivedVariables_eq, Catalogue.map_name_builtins, List.map_map]
  rfl

end Context

end FormLetter
