import FormLetter.Text.Basic

/-!
# The catalogue of variables

The variables as the help pages list them: the built-in ones and an entry for fields, as a list
and as a piece of a web page.
-/

namespace FormLetter

/-- An entry of the catalogue: a `VariableInfo`. -/
structure CatalogueEntry where
  name : Text
  description : Text
  /-- A value that the variable may have. -/
  sample : Text
  deriving DecidableEq, Repr

namespace Catalogue

/-- An entry of the catalogue, by three literals. -/
def entry (name description sample : String) : CatalogueEntry :=
  ⟨name.toList, description.toList, sample.toList⟩

/-- The entries of the variables that every record has: `builtin_variables`. -/
def builtins : List CatalogueEntry :=
  [entry "email" "Full email address of recipient" "john.doe@example.com",
    entry "recipient_email" "Same as email" "john.doe@example.com",
    entry "emailname" "Username part of email address" "john.doe",
    entry "domain" "Domain name without TLD (e.g. 'example' from 'example.com')" "example",
    entry "full_domain" "Complete domain part of email address with TLD" "example.com",
    entry "time" "Current date and time" "2025-04-18 14:30:45",
    entry "date" "Current date" "2025-04-18",
    entry "day" "Current day of week" "Friday",
    entry "month" "Current month" "April",
    entry "year" "Current year" "2025",
    entry "firstname" "First name (derived from email or custom field)" "John",
    entry "lastname" "Last name (derived from email or custom field)" "Doe",
    entry "company" "Company name (derived from domain name or custom field)" "Example",
    entry "random_number" "Unique 3-digit number based on email" "123",
    entry "unsubscribe" "Unsubscribe link with email parameter"
      "https://example.com/unsubscribe?email=john.doe@example.com"]

/-- The entry for the variables that recipients have as fields. -/
def customFields : CatalogueEntry :=
  entry "Custom fields" "Any custom field added with format email@example.com|fieldname=value"
    "position, company, phone, etc."

/-- All entries: `available_variables`. -/
def entries : List CatalogueEntry := builtins ++ [customFields]

/-- The row of an entry in the table of variables. -/
def tableRow (e : CatalogueEntry) : Text :=
  "<tr><td><code>\x7b".toList ++ e.name ++ "\x7d</code></td><td>".toList ++ e.description ++
    "</td><td>".toList ++ e.sample ++ "</td></tr>".toList

/-- The catalogue as a piece of a web page: `generate_documentation`. -/
def page : Text :=
  "<h2>Available Personalization Variables</h2>".toList ++
  "<p>Use these variables in your email templates with either single braces ".toList ++
  "\x7bvariable\x7d or double braces \x7b\x7bvariable\x7d\x7d.</p>".toList ++
  "<table border='1' cellpadding='5' cellspacing='0'>".toList ++
  "<tr><th>Variable</th><th>Description</th><th>Example</th></tr>".toList ++
  entries.flatMap tableRow ++
  "</table>".toList ++
  "<h3>Advanced Recipient Format</h3>".toList ++
  "<p>To include custom fields, format your recipients file as follows:</p>".toList ++
  "<pre>email@example.com|firstname=John|lastname=Doe|company=Acme Inc|position=CEO</pre>".toList ++
  "<p>Then you can use \x7bfirstname\x7d, \x7blastname\x7d, \x7bcompany\x7d, and ".toList ++
  "\x7bposition\x7d variables in your templates.</p>".toList

end Catalogue

/-- Whether a name is that of a built-in variable, case of ASCII letters aside: `is_builtin`. -/
def isBuiltin (name : Text) : Bool :=
  Catalogue.builtins.any fun e => e.name.asciiLower = name.asciiLower

end FormLetter
