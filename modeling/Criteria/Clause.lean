set_option autoImplicit false

namespace Criteria

inductive Comparison where
  | equal
  | notEqual
  | atLeast
  | greater
  | atMost
  | less
  deriving DecidableEq, Repr

def Comparison.symbol : Comparison → String
  | equal => "="
  | notEqual => "!="
  | atLeast => ">="
  | greater => ">"
  | atMost => "<="
  | less => "<"

namespace Text

def whereWord : String := " where "
def andWord : String := " and "
def orWord : String := " or "
def orderWord : String := " order by "
def placeholderMark : String := "?"

end Text

def placeholder (n : Nat) : String := Text.placeholderMark ++ toString n

inductive Clause where
  | compare (path : String) (op : Comparison)
  | like (path : String)
  | likeAny (paths : List String)
  | within (path : String)
  | between (path : String)
  deriving DecidableEq, Repr

namespace Clause

def arity : Clause → Nat
  | compare _ _ | like _ | within _ => 1
  | likeAny paths => paths.length
  | between _ => 2

def likes : Nat → List String → List String
  | _, [] => []
  | n, p :: ps => (p ++ " like " ++ placeholder n) :: likes (n + 1) ps

def render (n : Nat) : Clause → String
  | compare path op => path ++ " " ++ op.symbol ++ " " ++ placeholder n
  | like path => path ++ " like " ++ placeholder n
  | likeAny paths => "(" ++ Text.orWord.intercalate (likes n paths) ++ ")"
  | within path => path ++ " in " ++ placeholder n
  | between path => path ++ " between " ++ placeholder n ++ " and " ++ placeholder (n + 1)

theorem likes_length (n : Nat) (paths : List String) : (likes n paths).length = paths.length := by
  induction paths generalizing n with
  | nil => rfl
  | cons p ps ih => simp [likes, ih]

theorem likes_singleton (n : Nat) (path : String) : likes n [path] = [(like path).render n] := rfl

end Clause

end Criteria
