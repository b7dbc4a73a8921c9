import ApiScaffold.Identifier.Qualified
import ApiScaffold.Source.Code

/-!
The packages that generated programs use.
-/

namespace ApiScaffold.Go.Package

open Source

def context : String := "context"

def driver : String := "database/sql/driver"

def json : String := "encoding/json"

def xml : String := "encoding/xml"

def errors : String := "errors"

def fmt : String := "fmt"

def io : String := "io"

def mime : String := "mime"

def http : String := "net/http"

def regexp : String := "regexp"

def strconv : String := "strconv"

def strings : String := "strings"

def chi : String := "github.com/go-chi/chi/v5"

def validation : String := "github.com/go-ozzo/ozzo-validation/v4"

def uuid : String := "github.com/google/uuid"

def country : String := "github.com/mikekonan/go-types/v2/country"

def currency : String := "github.com/mikekonan/go-types/v2/currency"

def email : String := "github.com/mikekonan/go-types/v2/email"

/-- Packages whose names are not the last segments of their paths. -/
def aliases : List (String × String) := [(chi, "chi"), (validation, "validation")]

/-- Whether a package comes with the language: a dot in the first segment of a path stands for a
host. -/
def isStandard (path : String) : Bool :=
  !(Text.firstPiece (· == '/') path.toList).contains '.'

def reference (name : QualifiedName) : Fragment :=
  match name.package with
  | some path => .qualified path name.name
  | none => .text name.name

end ApiScaffold.Go.Package
