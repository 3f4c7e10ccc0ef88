import ConnectionPool.Call.Method

/-!
# Cache keys

A key identifies a cached statement by the kind of the statement and the whole argument list
of the call that prepared it, so the same text prepared with other flags has another key.
-/

set_option autoImplicit false

namespace ConnectionPool

/-- The kinds of statement that a cache can hold. -/
inductive StatementKind
  | prepared
  | callable
  deriving DecidableEq, Repr, Inhabited

namespace StatementKind

/-- The kind of statement that an operation prepares. -/
def ofMethod? : Method → Option StatementKind
  | .prepareStatement => some prepared
  | .prepareCall => some callable
  | _ => none

/-- The operation that prepares statements of a kind. -/
def method : StatementKind → Method
  | prepared => .prepareStatement
  | callable => .prepareCall

/-- The name of the kind. -/
def word : StatementKind → String
  | prepared => "Prepared"
  | callable => "Callable"

theorem ofMethod?_eq_some_iff (method : Method) (kind : StatementKind) :
    ofMethod? method = some kind ↔ method = kind.method := by
  cases method <;> cases kind <;> simp [ofMethod?, StatementKind.method]

end StatementKind

/-- **A cache key**: the kind of a statement and the arguments it was prepared with. -/
structure CacheKey where
  kind : StatementKind
  args : List Arg
  deriving DecidableEq, Repr, Inhabited

namespace CacheKey

/-- The key of a call, if the call prepares a statement. -/
def ofCall? (call : Call) : Option CacheKey :=
  (StatementKind.ofMethod? call.method).map fun kind => ⟨kind, call.args⟩

/-- The call that a key stands for. -/
def call (key : CacheKey) : Call := ⟨key.kind.method, key.args⟩

/-- The statement text, if the first argument is a text. -/
def sql? (key : CacheKey) : Option String := key.call.sql?

/-- The key as a printed call. -/
def render (key : CacheKey) : String :=
  key.kind.method.word ++ "(" ++ ", ".intercalate (key.args.map Arg.render) ++ ")"

/-- The key as a printed record. -/
def describe (key : CacheKey) : String :=
  Text.record "CacheKey"
    [("kind", key.kind.word), ("args", Text.listing (key.args.map Arg.describe))]

/-- A key determines the calls it belongs to. -/
theorem ofCall?_eq_some_iff (call : Call) (key : CacheKey) :
    ofCall? call = some key ↔ call = key.call := by
  obtain ⟨method, args⟩ := call
  obtain ⟨kind, keyArgs⟩ := key
  cases method <;> cases kind <;>
    simp [ofCall?, StatementKind.ofMethod?, CacheKey.call, StatementKind.method]

end CacheKey

end ConnectionPool
