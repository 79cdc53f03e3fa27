import CssSelectors.Proofs.Grammar.Form
import Mathlib.Data.List.Lattice

namespace CssSelectors

-- Where a reader of a selector group may be, after the shapes it has seen. The flag tells whether it
-- is inside the argument of a negation.
inductive State where
  | start
  | afterComma
  | negated
  | named (inside : Bool)
  | prefixed (inside : Bool)
  | done (inside : Bool)
  | dot (inside : Bool)
  | bracket (inside : Bool)
  | attrStar (inside : Bool)
  | attrPrefixed (inside : Bool)
  | attrName (inside : Bool)
  | attrNamed (inside : Bool)
  | attrOp (inside : Bool)
  | attrValue (inside : Bool)
  | colon (inside : Bool)
  | colons (inside : Bool)
  | argsOpen (inside : Bool)
  | args (inside : Bool)
deriving DecidableEq, Repr

namespace State

def simple (inside : Bool) : List (Shape × State) := [
  (.symbol .hash, .done inside), (.literal '.', .dot inside),
  (.literal '[', .bracket inside), (.literal ':', .colon inside)
]

def heads (inside : Bool) : List (Shape × State) := [
  (.symbol .ident, .named inside), (.literal '*', .named inside), (.literal '|', .prefixed inside)
]

def operators (next : State) : List (Shape × State) := [
  (.symbol .prefixMatch, next), (.symbol .suffixMatch, next), (.symbol .substringMatch, next),
  (.literal '=', next), (.symbol .includes, next), (.symbol .dashMatch, next)
]

def arguments (next : State) : List (Shape × State) := [
  (.symbol .plus, next), (.literal '-', next), (.symbol .dimension, next),
  (.symbol .number, next), (.symbol .string, next), (.symbol .ident, next)
]

-- What may follow a simple selector. White space may only follow the argument of a negation.
def follow (inside : Bool) : List (Shape × State) :=
  simple false ++ [(.symbol .not, .negated), (.symbol .comma, .afterComma)] ++
    if inside then [(.space, .done true)] else []

-- The shapes that may come next, each with where it leads.
def moves : State → List (Shape × State)
  | .start => heads false ++ simple false ++ [(.symbol .not, .negated)]
  | .afterComma => (.space, .afterComma) :: heads false ++ simple false ++ [(.symbol .not, .negated)]
  | .negated => (.space, .negated) :: heads true ++ simple true
  | .named inside => (.literal '|', .prefixed inside) :: follow inside
  | .prefixed inside => [(.symbol .ident, .done inside), (.literal '*', .done inside)]
  | .done inside => follow inside
  | .dot inside => [(.symbol .ident, .done inside)]
  | .bracket inside => [
      (.space, .bracket inside), (.symbol .ident, .attrName inside),
      (.literal '*', .attrStar inside), (.literal '|', .attrPrefixed inside)]
  | .attrStar inside => [(.literal '|', .attrPrefixed inside)]
  | .attrPrefixed inside => [(.symbol .ident, .attrNamed inside)]
  | .attrName inside =>
    [(.literal '|', .attrPrefixed inside), (.space, .attrNamed inside), (.literal ']', .done inside)] ++
      operators (.attrOp inside)
  | .attrNamed inside =>
    [(.space, .attrNamed inside), (.literal ']', .done inside)] ++ operators (.attrOp inside)
  | .attrOp inside => [
      (.space, .attrOp inside), (.symbol .ident, .attrValue inside),
      (.symbol .string, .attrValue inside)]
  | .attrValue inside => [(.space, .attrValue inside), (.literal ']', .done inside)]
  | .colon inside => [
      (.literal ':', .colons inside), (.symbol .ident, .done inside),
      (.symbol .function, .argsOpen inside)]
  | .colons inside => [(.symbol .ident, .done inside), (.symbol .function, .argsOpen inside)]
  | .argsOpen inside => (.space, .argsOpen inside) :: arguments (.args inside)
  | .args inside =>
    [(.space, .args inside), (.literal ')', .done inside)] ++ arguments (.args inside)

def step (state : State) (shape : Shape) : Option State := state.moves.lookup shape

-- Whether a selector group may end here.
def final : State → Bool
  | .named _ | .done _ => true
  | _ => false

def run (state : State) : List Shape → Option State
  | [] => some state
  | shape :: rest => (state.step shape).bind (run · rest)

-- Whether the shapes lead from here to an end.
def accepts (state : State) : List Shape → Bool
  | [] => state.final
  | shape :: rest =>
    match state.step shape with
    | some next => next.accepts rest
    | none => false

variable {state next : State} {shape : Shape} {front rest word : List Shape}

theorem run_append : state.run (front ++ rest) = (state.run front).bind (run · rest) := by
  induction front generalizing state with
  | nil => rfl
  | cons shape front ih =>
      rw [List.cons_append, run, run]
      cases state.step shape with
      | none => rfl
      | some next => exact ih

theorem run_from (reached : state.run front = some next) :
    state.run (front ++ rest) = next.run rest := by
  rw [run_append, reached]
  rfl

theorem accepts_iff : state.accepts word = true ↔ ∃ last, state.run word = some last ∧ last.final = true := by
  induction word generalizing state with
  | nil => simp [accepts, run]
  | cons shape word ih =>
      rw [accepts, run]
      cases state.step shape with
      | none => simp
      | some next => exact ih

theorem accepts_cons (accepted : state.accepts (shape :: rest) = true) :
    ∃ next, (shape, next) ∈ state.moves ∧ next.accepts rest = true := by
  rw [accepts] at accepted
  cases stepped : state.step shape with
  | none => simp [stepped] at accepted
  | some next =>
      rw [stepped] at accepted
      refine ⟨next, ?_, accepted⟩
      obtain ⟨before, after, same, _⟩ := List.lookup_eq_some_iff.mp stepped
      exact same ▸ by simp

-- What a step leads to from several states; nothing is known if it is not defined at one of them.
def gather (post : State → Option (List State)) : List State → Option (List State)
  | [] => some []
  | state :: rest =>
    match post state, gather post rest with
    | some here, some others => some (here ∪ others)
    | _, _ => none

-- What repetitions of a step lead to, from the states still to be looked at.
def explore (post : State → Option (List State)) : Nat → List State → List State → Option (List State)
  | _, seen, [] => some seen
  | 0, _, _ :: _ => none
  | fuel + 1, seen, state :: todo =>
    if state ∈ seen then explore post fuel seen todo
    else
      match post state with
      | some found => explore post fuel (state :: seen) (found ++ todo)
      | none => none

-- A step is defined in a set of states and stays in it.
def Closed (post : State → Option (List State)) (states : List State) : Prop :=
  ∀ state ∈ states, ∃ found, post state = some found ∧ found ⊆ states

variable {post : State → Option (List State)} {states all : List State}

theorem gather_spec (gathered : gather post states = some all) :
    ∀ state ∈ states, ∃ found, post state = some found ∧ found ⊆ all := by
  induction states generalizing all with
  | nil => nofun
  | cons first states ih =>
      rw [gather] at gathered
      cases here : post first with
      | none => simp [here] at gathered
      | some found =>
          cases others : gather post states with
          | none => simp [here, others] at gathered
          | some rest =>
              simp only [here, others, Option.some.injEq] at gathered
              subst gathered
              intro state present
              rcases List.mem_cons.mp present with same | later
              · exact ⟨found, same ▸ here, fun _ member => List.mem_union_left member _⟩
              · obtain ⟨more, leads, inside⟩ := ih others state later
                exact ⟨more, leads, fun _ member => List.mem_union_right _ (inside member)⟩

theorem explore_spec {fuel : Nat} {seen todo : List State}
    (explored : explore post fuel seen todo = some all) :
    seen ⊆ all ∧ todo ⊆ all ∧
      ∀ state ∈ all, state ∈ seen ∨ ∃ found, post state = some found ∧ found ⊆ all := by
  induction fuel generalizing seen todo with
  | zero =>
      cases todo with
      | nil =>
          cases explored
          exact ⟨List.Subset.refl _, List.nil_subset _, fun _ present => .inl present⟩
      | cons => cases explored
  | succ fuel ih =>
      cases todo with
      | nil =>
          cases explored
          exact ⟨List.Subset.refl _, List.nil_subset _, fun _ present => .inl present⟩
      | cons first todo =>
          rw [explore] at explored
          split at explored
          · rename_i known
            obtain ⟨before, rest, closed⟩ := ih explored
            exact ⟨before, List.cons_subset.mpr ⟨before known, rest⟩, closed⟩
          · cases here : post first with
            | none => simp [here] at explored
            | some found =>
                rw [here] at explored
                obtain ⟨before, rest, closed⟩ := ih explored
                obtain ⟨inside, earlier⟩ := List.cons_subset.mp before
                obtain ⟨leads, later⟩ := List.append_subset.mp rest
                refine ⟨earlier, List.cons_subset.mpr ⟨inside, later⟩, ?_⟩
                intro state present
                rcases closed state present with old | new
                · rcases List.mem_cons.mp old with same | old
                  · exact .inr ⟨found, same ▸ here, leads⟩
                  · exact .inl old
                · exact .inr new

theorem explore_closed {fuel : Nat} (explored : explore post fuel [] [state] = some all) :
    state ∈ all ∧ Closed post all := by
  obtain ⟨_, start, closed⟩ := explore_spec explored
  refine ⟨start List.mem_cons_self, ?_⟩
  intro other present
  rcases closed other present with none | found
  · cases none
  · exact found

end State

namespace Form

-- The states that a form may lead to.
def post : Form → State → Option (List State)
  | .one shape, state => (state.step shape).map fun next => [next]
  | .never, _ => some []
  | .empty, state | .notBefore _, state => some [state]
  | .seq first second, state => (first.post state).bind (State.gather second.post)
  | .alt first second, state =>
    match first.post state, second.post state with
    | some here, some others => some (here ∪ others)
    | _, _ => none
  | .star form, state => State.explore form.post 64 [] [state]

variable {form : Form} {word rest : List Shape} {state : State} {states : List State}

theorem Leaves.star_run (leaves : Leaves (.star form) word rest)
    (closed : State.Closed form.post states)
    (round : ∀ {word rest : List Shape} {state : State} {found : List State}, Leaves form word rest →
      form.post state = some found →
      ∃ front next, word = front ++ rest ∧ state.run front = some next ∧ next ∈ found)
    (start : state ∈ states) :
    ∃ front next, word = front ++ rest ∧ state.run front = some next ∧ next ∈ states := by
  generalize shape : Form.star form = whole at leaves
  induction leaves generalizing state with
  | stop => exact ⟨[], state, rfl, rfl, start⟩
  | again one _ _ more =>
      cases shape
      obtain ⟨found, leads, inside⟩ := closed state start
      obtain ⟨early, middle, rfl, reached, present⟩ := round one leads
      obtain ⟨late, next, rfl, arrived, last⟩ := more (inside present) rfl
      exact ⟨early ++ late, next, (List.append_assoc ..).symm,
        (State.run_from reached).trans arrived, last⟩
  | _ => cases shape

theorem post_alt {first second : Form} (leads : (alt first second).post state = some states) :
    ∃ here others, first.post state = some here ∧ second.post state = some others ∧
      states = here ∪ others := by
  rw [post] at leads
  cases one : first.post state with
  | none => simp [one] at leads
  | some here =>
      cases two : second.post state with
      | none => simp [one, two] at leads
      | some others =>
          simp only [one, two, Option.some.injEq] at leads
          exact ⟨here, others, rfl, rfl, leads.symm⟩

theorem Leaves.run (leaves : Leaves form word rest) (leads : form.post state = some states) :
    ∃ front next, word = front ++ rest ∧ state.run front = some next ∧ next ∈ states := by
  induction form generalizing word rest state states with
  | one shape =>
      cases leaves
      obtain ⟨next, stepped, rfl⟩ := Option.map_eq_some_iff.mp leads
      exact ⟨[shape], next, rfl, by simp [State.run, stepped], List.mem_cons_self⟩
  | never => cases leaves
  | empty =>
      cases leaves
      cases leads
      exact ⟨[], state, rfl, rfl, List.mem_cons_self⟩
  | notBefore shape =>
      cases leaves
      cases leads
      exact ⟨[], state, rfl, rfl, List.mem_cons_self⟩
  | seq first second one two =>
      cases leaves with
      | seq head tail =>
          obtain ⟨middle, here, gathered⟩ := Option.bind_eq_some_iff.mp leads
          obtain ⟨early, next, rfl, reached, present⟩ := one head here
          obtain ⟨found, onward, inside⟩ := State.gather_spec gathered next present
          obtain ⟨late, last, rfl, arrived, final⟩ := two tail onward
          exact ⟨early ++ late, last, (List.append_assoc ..).symm,
            (State.run_from reached).trans arrived, inside final⟩
  | alt first second one two =>
      obtain ⟨here, others, left, right, rfl⟩ := post_alt leads
      cases leaves with
      | left leaves =>
          obtain ⟨front, next, same, reached, present⟩ := one leaves left
          exact ⟨front, next, same, reached, List.mem_union_left present _⟩
      | right leaves =>
          obtain ⟨front, next, same, reached, present⟩ := two leaves right
          exact ⟨front, next, same, reached, List.mem_union_right _ present⟩
  | star form ih =>
      obtain ⟨start, closed⟩ := State.explore_closed leads
      exact leaves.star_run closed ih start

theorem group_post : (group.post .start).any (·.all State.final) = true := by decide +kernel

-- Every word of the grammar leads from the start to an end.
theorem Leaves.accepts (leaves : Leaves group word []) : State.start.accepts word = true := by
  obtain ⟨states, leads, final⟩ := (Option.any_eq_true _ _).mp group_post
  obtain ⟨front, next, same, reached, present⟩ := leaves.run leads
  rw [List.append_nil] at same
  exact State.accepts_iff.mpr ⟨next, same ▸ reached, List.all_eq_true.mp final next present⟩

end Form

end CssSelectors
