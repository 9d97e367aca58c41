/-!
# Types of expressions

The static type of an expression, reduced to what writing a query needs to know.
-/

namespace AqlPipeline

/-- The category of a type that is not an array. -/
inductive TypeKind where
  /-- No value. -/
  | void
  /-- Truth values. -/
  | boolean
  /-- Texts. -/
  | string
  /-- Numbers of any size. -/
  | number
  /-- Classes and everything else. -/
  | object
  /-- Records without a declared name. -/
  | anonymous
  /-- Holders of closed-over variables. -/
  | closure
  /-- Query sources, which have no text of their own. -/
  | queryable
  deriving DecidableEq, Repr

/-- The type of an expression. -/
inductive TypeRef where
  /-- A type that is not an array. -/
  | plain (name : String) (kind : TypeKind) (assignableTo : List String)
  /-- An array of elements of a type, with a number of dimensions. -/
  | array (name : String) (element : TypeRef) (rank : UInt32) (assignableTo : List String)
  deriving DecidableEq, Repr

namespace TypeRef

/-- The simple name of a type. -/
def name : TypeRef → String
  | .plain name _ _ => name
  | .array name _ _ _ => name

/-- The names of the types a value of this type converts to by itself. -/
def assignableTo : TypeRef → List String
  | .plain _ _ names => names
  | .array _ _ _ names => names

/-- Whether a type is of the given category. -/
def hasKind (kind : TypeKind) : TypeRef → Bool
  | .plain _ other _ => other == kind
  | .array .. => false

/-- Whether values of the type do not exist. -/
def isVoid (type : TypeRef) : Bool := type.hasKind .void

/-- Whether values of the type are truth values. -/
def isBoolean (type : TypeRef) : Bool := type.hasKind .boolean

/-- Whether values of the type are texts. -/
def isString (type : TypeRef) : Bool := type.hasKind .string

/-- Whether the type is a record without a declared name. -/
def isAnonymous (type : TypeRef) : Bool := type.hasKind .anonymous

/-- Whether the type holds closed-over variables. -/
def isClosure (type : TypeRef) : Bool := type.hasKind .closure

/-- Whether the type is a query source. -/
def isQueryable (type : TypeRef) : Bool := type.hasKind .queryable

/-- The type of the elements of an array. -/
def element? : TypeRef → Option TypeRef
  | .array _ element _ _ => some element
  | .plain .. => none

/-- Whether the type is an array. -/
def isArray (type : TypeRef) : Bool := type.element?.isSome

/-- The innermost element type, which is the type itself if it is not an array. -/
def root : TypeRef → TypeRef
  | .array _ element _ _ => element.root
  | type => type

/-- The ranks of an array and of the arrays inside it, the outermost first. -/
def ranks : TypeRef → List UInt32
  | .array _ element rank _ => rank :: element.ranks
  | .plain .. => []

/-! ## Common types -/

/-- The type that everything converts to. -/
def object : TypeRef := .plain "Object" .object []

/-- The type without values. -/
def void : TypeRef := .plain "Void" .void []

/-- The type of truth values. -/
def boolean : TypeRef := .plain "Boolean" .boolean []

/-- The type of texts. -/
def string : TypeRef := .plain "String" .string []

/-- A type of numbers. -/
def number (name : String) : TypeRef := .plain name .number []

/-- A class. -/
def named (name : String) : TypeRef := .plain name .object []

/-- A record without a declared name. -/
def anonymous (name : String) : TypeRef := .plain name .anonymous []

/-- A holder of closed-over variables. -/
def closure (name : String) : TypeRef := .plain name .closure []

/-- A query source of elements of a type. -/
def queryable (element : TypeRef) : TypeRef :=
  .plain ("IQueryable<" ++ element.name ++ ">") .queryable []

/-- The brackets of an array of the given rank, with a comma between two dimensions. -/
def brackets (rank : UInt32) : String :=
  "[" ++ String.ofList (List.replicate (rank.toNat - 1) ',') ++ "]"

/-- An array of elements of a type. -/
def arrayOf (element : TypeRef) (rank : UInt32) : TypeRef :=
  .array (element.name ++ brackets rank) element rank []

/-- The type, with one more type that its values convert to. -/
def withAssignableTo (target : String) : TypeRef → TypeRef
  | .plain name kind names => .plain name kind (names ++ [target])
  | .array name element rank names => .array name element rank (names ++ [target])

instance : Inhabited TypeRef := ⟨object⟩

/-! ## Conversion -/

/-- Whether a value of type `source` can be used at this type as it is. -/
def isAssignableFrom (type source : TypeRef) : Bool :=
  type = source || (type.hasKind .object && type.name == "Object") ||
    source.assignableTo.contains type.name

end TypeRef

end AqlPipeline
