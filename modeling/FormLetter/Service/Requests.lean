import FormLetter.Json.Form

/-!
# Requests to the service

What clients send to the endpoints that are posted to, and the forms in which they send it.
-/

namespace FormLetter.Service

/-- A request to show the variables of a recipient: a `ParseRecipientRequest`. -/
structure ParseRequest where
  line : Option Text
  deriving DecidableEq, Repr

/-- A request to resolve a template for a recipient: an `ApplyMergeRequest`. -/
structure ApplyRequest where
  template : Option Text
  line : Option Text
  deriving DecidableEq, Repr

/-- A request to merge a mailing with recipients, which are given one by one, as a file, or both:
a `MergeBatchRequest`. -/
structure BatchRequest where
  subjects : List Text
  template : Option Text
  recipients : List Text
  recipientsFile : Option Text
  deriving DecidableEq, Repr

/-- A request to analyse a template, perhaps for a recipient: an `AnalyzeTemplateRequest`. -/
structure AnalyzeRequest where
  template : Option Text
  line : Option Text
  deriving DecidableEq, Repr

/-- The field with a recipient line. -/
def lineField : Text := "recipientLine".toList

/-- The field with a template. -/
def templateField : Text := "template".toList

/-- The field with the subjects of a batch. -/
def subjectsField : Text := "subjects".toList

/-- The field with the recipients of a batch. -/
def recipientsField : Text := "recipients".toList

/-- The field with a file of recipients. -/
def recipientsFileField : Text := "recipientsText".toList

/-- Reads a request to show the variables of a recipient. -/
def ParseRequest.read (bytes : List UInt8) : Except FormFault ParseRequest :=
  (Form.read [(lineField, .text)] bytes).map fun form => ⟨form.text? lineField⟩

/-- Reads a request to resolve a template for a recipient. -/
def ApplyRequest.read (bytes : List UInt8) : Except FormFault ApplyRequest :=
  (Form.read [(templateField, .text), (lineField, .text)] bytes).map fun form =>
    ⟨form.text? templateField, form.text? lineField⟩

/-- Reads a request to merge a mailing with recipients. -/
def BatchRequest.read (bytes : List UInt8) : Except FormFault BatchRequest :=
  (Form.read [(subjectsField, .texts), (templateField, .text), (recipientsField, .texts),
    (recipientsFileField, .text)] bytes).map fun form =>
      { subjects := form.texts subjectsField
        template := form.text? templateField
        recipients := form.texts recipientsField
        recipientsFile := form.text? recipientsFileField }

/-- Reads a request to analyse a template. -/
def AnalyzeRequest.read (bytes : List UInt8) : Except FormFault AnalyzeRequest :=
  (Form.read [(templateField, .text), (lineField, .text)] bytes).map fun form =>
    ⟨form.text? templateField, form.text? lineField⟩

end FormLetter.Service
