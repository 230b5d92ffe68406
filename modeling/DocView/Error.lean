import DocView.Json.Reader
import DocView.Value.Literal

/-!
# What can go wrong

Every failure is a constructor that names its cause, with the data that its wording needs. The
wording is in one function, and `category` says what sort of failure it is: a caller's mistake, a
query that cannot be parsed, a store that cannot answer, or an operation that a value's kind does
not support.

Conditions, sort keys and rows come from users and hardly ever fail; most of these arise where a
program hands the engine something that is not even of the right shape.

## Main definitions

* `Error`, `Error.category`, `Error.message`
-/

namespace DocView

/-- The sorts of failure. -/
inductive Category where
  | validation
  | queryParse
  | storage
  | queryNotFound
  | serialization
  | wrongType
  | wrongValue
  | missingAttribute
  | overflow
  | yamlScanner
  | yamlParser
deriving DecidableEq, Repr

/-- The sorts of failure that belong to the engine itself; the others are plain programming
errors, known by their sort alone. -/
def Category.isOwn : Category → Bool
  | .validation | .queryParse | .storage | .queryNotFound | .serialization => true
  | _ => false

/-- A failure. -/
inductive Error where
  -- arguments that are refused
  | documentsMissing
  | documentsNotSequence (kind : String)
  | pageNotInteger (kind : String)
  | pageTooSmall (page : Int)
  | pageSizeNotInteger (kind : String)
  | pageSizeTooSmall (size : Int)
  | pageSizeTooLarge (size limit : Int)
  | idNotText (kind : String)
  | idEmpty
  | idTooLong (length : Nat)
  | idMalformed (id : String)
  | recordsNotList (kind : String)
  | recordNotObject (index : Nat) (kind : String)
  -- queries that cannot be parsed
  | queryTextEmpty
  | queryNotJson (fault : Json.Fault)
  | queryNotObject (kind : String)
  | selectorNotObject (kind : String)
  | queryMemberNotList (name : String)
  -- stores that cannot answer
  | storeFileMissing (path : String)
  | storeUnreadable (path reason : String)
  | storeUnwritable (path reason : String)
  | queryNotFound (id : String)
  -- records and view settings that cannot be written or read
  | unknownFormat (name : String)
  | unencodable (reason : String)
  | undecodable (reason : String)
  | recordsFileNotList (kind : String)
  | viewUndecodable (what reason : String)
  | viewNotList (what : String)
  | viewItemNotObject (what : String)
  -- operations that the kind of a value does not support
  | notIterable (kind : String)
  | notContainer (kind : String)
  | notOrdered (kind other : String)
  | unhashable (kind : String)
  | notSliceable (kind : String)
  | noLength (kind : String)
  | notRenderable (kind : String)
  | badArgument (text : String)
  | unexpectedOption (owner name : String)
  | noMember (kind name : String)
  -- values out of bounds
  | tooManyDigits (count : Nat)
  | integerTooLong
  | malformedInteger (text : String)
  | badValue (text : String)
  | repeatCountTooLarge
  | outOfRange (text : String)
  -- configuration files
  | yamlScan
  | yamlParse
deriving DecidableEq, Repr

namespace Error

/-- The sort of a failure. -/
def category : Error → Category
  | .documentsMissing | .documentsNotSequence _ | .pageNotInteger _ | .pageTooSmall _
  | .pageSizeNotInteger _ | .pageSizeTooSmall _ | .pageSizeTooLarge _ _ | .idNotText _ | .idEmpty
  | .idTooLong _ | .idMalformed _ | .recordsNotList _ | .recordNotObject _ _ => .validation
  | .queryTextEmpty | .queryNotJson _ | .queryNotObject _ | .selectorNotObject _
  | .queryMemberNotList _ => .queryParse
  | .storeFileMissing _ | .storeUnreadable _ _ | .storeUnwritable _ _ => .storage
  | .queryNotFound _ => .queryNotFound
  | .unknownFormat _ | .unencodable _ | .undecodable _ | .recordsFileNotList _
  | .viewUndecodable _ _ | .viewNotList _ | .viewItemNotObject _ => .serialization
  | .notIterable _ | .notContainer _ | .notOrdered _ _ | .unhashable _ | .notSliceable _
  | .noLength _ | .notRenderable _ | .badArgument _ | .unexpectedOption _ _ => .wrongType
  | .noMember _ _ => .missingAttribute
  | .tooManyDigits _ | .integerTooLong | .malformedInteger _ | .badValue _ => .wrongValue
  | .repeatCountTooLarge | .outOfRange _ => .overflow
  | .yamlScan => .yamlScanner
  | .yamlParse => .yamlParser

/-- The wording of a failure. -/
def message : Error → String
  | .documentsMissing => "Document collection cannot be None"
  | .documentsNotSequence kind => "Documents must be a sequence, got " ++ kind
  | .pageNotInteger kind => "Page must be an integer, got " ++ kind
  | .pageTooSmall page => "Page must be at least 1, got " ++ intText page
  | .pageSizeNotInteger kind => "Page size must be an integer, got " ++ kind
  | .pageSizeTooSmall size => "Page size must be at least 1, got " ++ intText size
  | .pageSizeTooLarge size limit =>
    "Page size too large: " ++ intText size ++ " (max " ++ intText limit ++ ")"
  | .idNotText kind => "ID must be a string, got " ++ kind
  | .idEmpty => "ID cannot be empty"
  | .idTooLong length => "ID too long: " ++ toString length ++ " characters (max 128)"
  | .idMalformed id =>
    "Invalid ID '" ++ id
      ++ "': must contain only alphanumeric characters, underscores or hyphens"
  | .recordsNotList kind => "Imported data must be a list, got " ++ kind
  | .recordNotObject index kind =>
    "Record " ++ toString index ++ " must be a dictionary, got " ++ kind
  | .queryTextEmpty => "Query text is empty"
  | .queryNotJson fault => "Invalid query JSON: " ++ fault.message
  | .queryNotObject kind => "Query must be a JSON object, got " ++ kind
  | .selectorNotObject kind => "Selector must be an object, got " ++ kind
  | .queryMemberNotList name => "'" ++ name ++ "' must be a list"
  | .storeFileMissing path => "Store file not found: " ++ path
  | .storeUnreadable path reason => "Failed to read " ++ path ++ ": " ++ reason
  | .storeUnwritable path reason => "Failed to write " ++ path ++ ": " ++ reason
  | .queryNotFound id => "Saved query '" ++ id ++ "' not found"
  | .unknownFormat name => "Unknown store format: " ++ name
  | .unencodable reason => "Cannot encode records: " ++ reason
  | .undecodable reason => "Cannot decode records: " ++ reason
  | .recordsFileNotList kind => "Stored records must be a list, got " ++ kind
  | .viewUndecodable what reason => "Cannot decode " ++ what ++ ": " ++ reason
  | .viewNotList what => what.capitalize ++ " must be a JSON list"
  | .viewItemNotObject what => what.capitalize ++ " must be a list of objects"
  | .notIterable kind => "'" ++ kind ++ "' object is not iterable"
  | .notContainer kind => "argument of type '" ++ kind ++ "' is not iterable"
  | .notOrdered kind other =>
    "'<' not supported between instances of '" ++ kind ++ "' and '" ++ other ++ "'"
  | .unhashable kind => "unhashable type: '" ++ kind ++ "'"
  | .notSliceable kind => "'" ++ kind ++ "' object is not subscriptable"
  | .noLength kind => "object of type '" ++ kind ++ "' has no len()"
  | .notRenderable kind => "Object of type " ++ kind ++ " is not JSON serializable"
  | .badArgument text => text
  | .unexpectedOption owner name =>
    owner ++ " has no option '" ++ name ++ "'"
  | .noMember kind name => "'" ++ kind ++ "' object has no attribute '" ++ name ++ "'"
  | .tooManyDigits count => Text.tooManyDigitsMessage count
  | .integerTooLong => Text.integerTooLongMessage
  | .malformedInteger text =>
    "invalid literal for int() with base 10: " ++ Text.quoted text
  | .badValue text => text
  | .repeatCountTooLarge => "the repetition number is too large"
  | .outOfRange text => text
  | .yamlScan => "while scanning for the next token"
  | .yamlParse => "while parsing a document"

/-- Why a part of a value cannot be written as JSON. -/
def ofUnwritable : Value → Error
  | .int _ => .integerTooLong
  | part => .notRenderable part.kindName

end Error

/-- The outcome of an operation of the engine. -/
abbrev Result := Except Error

namespace Value

/-- The members of an object; other values have no named members. -/
def members? : Value → Result Members
  | .object _ members => .ok members
  | v => .error (.noMember v.kindName "get")

/-- The value of a member, null if there is none. -/
def member (members : Members) (name : String) : Value := (members.get? name).getD .null

/-- The things that a value yields one by one: items of a list, characters of a text, names of an
object, bytes. -/
def elements? : Value → Result (List Value)
  | .list _ items => .ok items
  | .str s => .ok (s.toList.map fun c => .str c.toString)
  | .object _ members => .ok ((Members.names members).map .str)
  | .bytes bs => .ok (bs.map fun b => .int b.toNat)
  | v => .error (.notIterable v.kindName)

end Value

end DocView
