import BlazorBridge.Text.Identifier
import BlazorBridge.Text.Quoted

/-!
# Options

What a user can choose: the namespace of the generated classes, what is appended to a module's name
to give its class, and the suffix of the generated files.
-/

namespace BlazorBridge

/-- Whether a text is a namespace: identifiers with dots between them. -/
def isNamespace (t : Text) : Bool := (Text.split (· == '.') t).all Text.isIdentifier

/-- The namespace used when none is asked for. -/
def standardNamespace : Text := "BlazorApp.JsInterop".toList

/-- The environment variable that sets the namespace. -/
def namespaceVariable : Text := "JSINTEROP_NAMESPACE".toList

/-- The namespace for a value of the environment variable. -/
def defaultNamespace (setting : Option Text) : Text := setting.getD standardNamespace

/-- The options of a run. The namespace is a valid one. -/
structure Options where
  space : Text
  classSuffix : Text := "JsInterop".toList
  outputSuffix : Text := ".cs".toList
  valid : isNamespace space = true
  deriving DecidableEq, Repr

namespace Options

/-- Options with the given fields; none if the namespace is not valid. -/
def ofFields? (space classSuffix outputSuffix : Text) : Option Options :=
  if valid : isNamespace space = true then some { space, classSuffix, outputSuffix, valid }
  else none

/-- Options with a namespace of choice and the standard suffixes. -/
def ofNamespace? (space : Text) : Option Options :=
  if valid : isNamespace space = true then some { space, valid } else none

/-- The options of a run in which nothing is chosen. -/
def standard : Options where
  space := standardNamespace
  valid := by decide +kernel

/-- What is said of a namespace that is not valid, or that was left out where it was asked for. -/
def badNamespace (space : Option Text) : Text :=
  "Invalid namespace: ".toList ++ (space.map Text.quoted).getD "[]".toList

end Options

end BlazorBridge
