import AtlasTestOps.Lib.Json

/-! The two guards that keep secrets out of a profile by the names of its fields: the one of the
domain model, and the function of the database that the table checks call. -/

namespace Atlas.Task

open Json

def isAsciiUpper (c : Char) : Bool := 'A' ≤ c ∧ c ≤ 'Z'

def isAsciiLower (c : Char) : Bool := 'a' ≤ c ∧ c ≤ 'z'

def isAsciiDigit (c : Char) : Bool := '0' ≤ c ∧ c ≤ '9'

/-- `[A-Za-z0-9]` -/
def isAsciiAlphanumeric (c : Char) : Bool := isAsciiUpper c || isAsciiLower c || isAsciiDigit c

def asciiLower (c : Char) : Char := if isAsciiUpper c then Char.ofNat (c.toNat + 32) else c

/-- The characters outside ASCII that fold to text with an ASCII letter, each with its folding. -/
def asciiFoldings : List (ℕ × List ℕ) :=
  [(0xdf, [0x73, 0x73]), (0x130, [0x69, 0x307]), (0x149, [0x2bc, 0x6e]), (0x17f, [0x73]),
    (0x1f0, [0x6a, 0x30c]), (0x1e96, [0x68, 0x331]), (0x1e97, [0x74, 0x308]), (0x1e98, [0x77, 0x30a]),
    (0x1e99, [0x79, 0x30a]), (0x1e9a, [0x61, 0x2be]), (0x1e9e, [0x73, 0x73]), (0x212a, [0x6b]),
    (0xfb00, [0x66, 0x66]), (0xfb01, [0x66, 0x69]), (0xfb02, [0x66, 0x6c]), (0xfb03, [0x66, 0x66, 0x69]),
    (0xfb04, [0x66, 0x66, 0x6c]), (0xfb05, [0x73, 0x74]), (0xfb06, [0x73, 0x74])]

/-- `str.casefold`. Every other character outside ASCII folds to characters outside ASCII, which the guard does
not tell apart: it stands for its own folding here. -/
def casefold (c : Char) : List Char :=
  match asciiFoldings.find? fun e => e.1 = c.toNat with
  | some e => e.2.map Char.ofNat
  | none => [asciiLower c]

/-! The guard of the domain model. -/

/-- `_SENSITIVE_FIELD_TOKENS` -/
def sensitiveFieldTokens : List String :=
  ["account", "authorization", "cookie", "credential", "lease", "login", "otp", "passwd", "password", "secret",
    "session", "token", "totp"]

/-- `_SENSITIVE_FIELD_NAMES` -/
def sensitiveFieldNames : List String := ["apikey", "accesskey", "privatekey", "storagestate"]

/-- `re.sub(r"([a-z0-9])([A-Z])", r"\1_\2", key)` -/
def separate : List Char → List Char
  | c :: d :: cs =>
    if (isAsciiLower c || isAsciiDigit c) && isAsciiUpper d then c :: '_' :: separate (d :: cs)
    else c :: separate (d :: cs)
  | cs => cs

/-- `re.split(r"[^A-Za-z0-9]+", …)`, with an empty token between two separators. -/
def splitTokens : List Char → List (List Char)
  | [] => [[]]
  | c :: cs =>
    if isAsciiAlphanumeric c then (splitTokens cs).modifyHead fun token => c :: token
    else [] :: splitTokens cs

def tokens (key : String) : List (List Char) :=
  (splitTokens ((separate key.toList).flatMap casefold)).filter fun token => token ≠ []

def compact (key : String) : List Char := (tokens key).flatten

def sensitiveField (key : String) : Bool :=
  (sensitiveFieldTokens.any fun marker => marker.toList ∈ tokens key) ||
    (sensitiveFieldTokens.any fun marker => marker.toList <:+: compact key) ||
    sensitiveFieldNames.any fun name => compact key = name.toList

def sensitiveFieldMessage (path : List String) : String :=
  let field := ".".intercalate path
  s!"task profile contains sensitive field: {field}"

mutual

/-- `_reject_sensitive_field_names`: the message of the error that is raised, if one is. -/
def rejectSensitiveFieldNames (path : List String) : Json → Option String
  | .scalar _ => none
  | .str _ => none
  | .arr items => rejectItems path 0 items
  | .obj fields => rejectFields path fields

def rejectItems (path : List String) (index : ℕ) : List Json → Option String
  | [] => none
  | item :: items =>
    (rejectSensitiveFieldNames (path ++ [toString index]) item).orElse fun _ => rejectItems path (index + 1) items

def rejectFields (path : List String) : List (String × Json) → Option String
  | [] => none
  | (key, nested) :: fields =>
    if sensitiveField key then some (sensitiveFieldMessage (path ++ [key]))
    else (rejectSensitiveFieldNames (path ++ [key]) nested).orElse fun _ => rejectFields path fields

end

/-! The guard of the database. -/

/-- The alternatives of the regular expression. -/
def sensitiveKeyMarkers : List String :=
  ["password", "passwd", "secret", "credential", "authorization", "cookie", "session", "token", "totp", "otp",
    "account", "lease", "login"]

/-- `lower(regexp_replace(key, '[^A-Za-z0-9]+', '', 'g'))` -/
def normalizedKey (key : String) : List Char := (key.toList.filter isAsciiAlphanumeric).map asciiLower

def sensitiveKey (key : String) : Bool :=
  (sensitiveKeyMarkers.any fun marker => marker.toList <:+: normalizedKey key) ||
    (["apikey", "accesskey", "privatekey", "storagestate"].any fun name => normalizedKey key = name.toList)

mutual

/-- `task_json_has_sensitive_keys` -/
def taskJsonHasSensitiveKeys : Json → Bool
  | .scalar _ => false
  | .str _ => false
  | .arr items => itemsHaveSensitiveKeys items
  | .obj fields => fieldsHaveSensitiveKeys fields

def itemsHaveSensitiveKeys : List Json → Bool
  | [] => false
  | item :: items => taskJsonHasSensitiveKeys item || itemsHaveSensitiveKeys items

def fieldsHaveSensitiveKeys : List (String × Json) → Bool
  | [] => false
  | (key, value) :: fields =>
    sensitiveKey key || taskJsonHasSensitiveKeys value || fieldsHaveSensitiveKeys fields

end

end Atlas.Task
