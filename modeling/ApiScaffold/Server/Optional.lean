import ApiScaffold.Go.File

/-!
The generic type of optional values, which every generated program declares: a value that is absent,
null or set.
-/

namespace ApiScaffold.Server

open Go Source

def giveError : List Statement := [.give ["err"]]

namespace Optional

def receiver : Receiver := { name := "o", type := "Optional[T]" }

def pointerReceiver : Receiver := { receiver with pointer := true }

def type : Declaration :=
  { comment := ["Optional holds a value that is absent, explicitly null or set."]
    form := .struct "Optional" "[T any]" [
      { members := [⟨"value", ["T"]⟩, ⟨"isSet", ["bool"]⟩, ⟨"isNull", ["bool"]⟩] }] }

def make : Declaration :=
  { comment := ["NewOptional returns a set Optional."]
    form := .function "NewOptional" "[T any](value T) Optional[T]" [
      .give ["Optional[T]\x7bvalue: value, isSet: true\x7d"]] }

def get : Declaration :=
  { comment := ["Get returns the value, or the zero value when it is not set."]
    form := .method receiver "Get" "() T" [.give ["o.value"]] }

def isSet : Declaration :=
  { comment := ["IsSet reports whether a non-null value was provided."]
    form := .method receiver "IsSet" "() bool" [.give ["o.isSet"]] }

def isNull : Declaration :=
  { comment := ["IsNull reports whether an explicit null was provided."]
    form := .method receiver "IsNull" "() bool" [.give ["o.isNull"]] }

def isZero : Declaration :=
  { comment := ["IsZero reports an unset value, so `omitzero` leaves it out of the JSON."]
    form := .method receiver "IsZero" "() bool" [.give ["!o.isSet"]] }

def set : Declaration :=
  { form := .method pointerReceiver "Set" "(value T)" [
      .assign "o.value" "value", .assign "o.isSet" "true", .assign "o.isNull" "false"] }

def unmarshal : Declaration :=
  { form := .method pointerReceiver "UnmarshalJSON" "(data []byte) error" [
      .when "string(data) == \"null\"" [
        .zeroed "zero" "T",
        .assign "o.value, o.isSet, o.isNull" "zero, false, true",
        .give ["nil"]],
      .when ["err := ", .imported Package.json "Unmarshal", "(data, &o.value); err != nil"]
        giveError,
      .assign "o.isSet, o.isNull" "true, false",
      .give ["nil"]] }

def marshal : Declaration :=
  { form := .method receiver "MarshalJSON" "() ([]byte, error)" [
      .when "!o.isSet" [.give ["[]byte(\"null\")", "nil"]],
      .give [[.imported Package.json "Marshal", "(o.value)"]]] }

def value : Declaration :=
  { comment := [
      "Value exposes the wrapped value to validation rules. Unset values read as nil."]
    form := .method receiver "Value" ["() (", .imported Package.driver "Value", ", error)"] [
      .when "!o.isSet" [.give ["nil", "nil"]],
      .give ["o.value", "nil"]] }

def validate : Declaration :=
  { form := .method receiver "Validate" "() error" [
      .when "!o.isSet" [.give ["nil"]],
      .when ["validatable, ok := any(o.value).(", .imported Package.validation "Validatable",
        "); ok"] [.give ["validatable.Validate()"]],
      .give ["nil"]] }

def declarations : List Declaration := [
  type, make, get, isSet, isNull, isZero, set, unmarshal, marshal, value, validate]

end Optional

end ApiScaffold.Server
