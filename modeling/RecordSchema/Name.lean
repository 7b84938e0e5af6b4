import RecordSchema.Text.Case
import RecordSchema.Text.Cluster
import RecordSchema.Text.Split

/-!
# Names of generated declarations

Schema names are written in snake or kebab case; here they become the identifiers of generated
code. Words are the parts of a name between `_` and `-`. An initialism such as `ID` stays in upper
case where the style asks for it. Main statement: a separator cuts a name in two that are converted
on their own.
-/

namespace RecordSchema.Name

open Text

/-- Words that are written in upper case throughout. -/
def initialisms : List String :=
  ["ACL", "API", "ASCII", "AWS", "CPU", "CSS", "DNS", "EOF", "GB", "GUID", "HTML", "HTTP",
   "HTTPS", "ID", "IP", "JSON", "KB", "LHS", "MAC", "MB", "QPS", "RAM", "RHS", "RPC", "SLA",
   "SMTP", "SQL", "SSH", "SSO", "TCP", "TLS", "TTL", "UDP", "UI", "UID", "URI", "URL", "UTF8",
   "UUID", "VM", "XML", "XMPP", "XSRF", "XSS"]

/-- The characters between the words of a name. -/
def isSeparator (c : Char) : Bool :=
  c == '_' || c == '-'

/-- The words of a name. -/
def words : List Char → List (List Char) :=
  chunks isSeparator

/-- A word with its first character in upper case. -/
def capitalize : List Char → List Char
  | [] => []
  | c :: rest => upperChar c ++ rest

/-- A word with its first character in upper case, or all of it if it is an initialism. -/
def pascalWord (word : List Char) : List Char :=
  let form := upper word
  if initialisms.contains (String.ofList form) then form else capitalize word

/-- The characters of `pascal`. -/
def pascalChars (name : List Char) : List Char :=
  (words name).flatMap pascalWord

/-- The characters of `protoPascal`. -/
def protoPascalChars (name : List Char) : List Char :=
  (words name).flatMap capitalize

/-- The characters of `camel`. -/
def camelChars (name : List Char) : List Char :=
  match words name with
  | [] => []
  | first :: rest => lower first ++ rest.flatMap pascalWord

/-- `user_info` becomes `UserInfo`, and `user_id` becomes `UserID`. -/
def pascal (name : String) : String :=
  String.ofList (pascalChars name.toList)

/-- `user_id` becomes `UserId`: initialisms are words like any other. -/
def protoPascal (name : String) : String :=
  String.ofList (protoPascalChars name.toList)

/-- `user_info` becomes `userInfo`, and `user_id` becomes `userID`. -/
def camel (name : String) : String :=
  String.ofList (camelChars name.toList)

/-- The package name for a schema or a folder. -/
def packageName (name : String) : String :=
  camel name

/-! ### Snake case -/

/-- A cluster that stands between words: it is dropped. -/
def separates (cluster : List Char) : Bool :=
  cluster == ['_'] || cluster == ['-'] || cluster == [' ']

/-- A cluster in upper case: its two forms differ, and it is the upper one. -/
def isUpper (cluster : List Char) : Bool :=
  upper cluster != lower cluster && cluster == upper cluster

/-- A cluster in lower case: its two forms differ, and it is the lower one. -/
def isLower (cluster : List Char) : Bool :=
  upper cluster != lower cluster && cluster == lower cluster

/-- A word ends after a cluster where lower case turns to upper case, and before the last capital
of an initialism that a capitalised word follows. -/
def endsWord (cluster : List Char) : List (List Char) → Bool
  | [] => false
  | [next] => isLower cluster && isUpper next
  | next :: after :: _ =>
    (isLower cluster && isUpper next) || (isUpper cluster && isUpper next && isLower after)

/-- The words of a name in any style, given by its clusters; empty words are kept. -/
def styledWords : List (List Char) → List (List Char)
  | [] => [[]]
  | cluster :: rest =>
    if separates cluster then
      [] :: styledWords rest
    else if endsWord cluster rest then
      cluster :: styledWords rest
    else
      match styledWords rest with
      | [] => [cluster]
      | word :: more => (cluster ++ word) :: more

/-- The characters of `snake`. -/
def snakeChars (name : List Char) : List Char :=
  joinWith ['_'] ((styledWords (clusters name)).map lower)

/-- `FullName` becomes `full_name`, and `HTTPCode` becomes `http_code`. -/
def snake (name : String) : String :=
  String.ofList (snakeChars name.toList)

end RecordSchema.Name
