import Runbook.Json.Query
import Runbook.Json.Reader
import Runbook.Proofs.Json.Dictionary

/-!
# What queries reach

A query goes through a document step by step, with all values that it has reached so far. What it reaches
from a value is what the rest of it reaches from each of the values that its first step gives, in their
order; so a query may be cut anywhere in front of its first step over every child, and behind such a step
the answers of the rest are put into one row.

Main statement: `run_append`.
-/

namespace Runbook

/-! ## Documents -/

/-- In every object of a value the keys stand in increasing order. -/
inductive Json.Ordered : Json → Prop
  | null : Ordered .null
  | bool (b : Bool) : Ordered (.bool b)
  | number (n : JsonNumber) : Ordered (.number n)
  | string (s : String) : Ordered (.string s)
  | array
      {items : List Json}
      (each : ∀ v ∈ items, Ordered v) :
      Ordered (.array items)
  | object
      {fields : List (String × Json)}
      (keys : Dict.Sorted fields)
      (each : ∀ p ∈ fields, Ordered p.2) :
      Ordered (.object fields)

namespace Json

/-- The children of a value: the items of an array, and the values of an object by increasing key. -/
def children : Json → List Json
  | .array items => items
  | .object fields => (fields.mergeSort fun p q => p.1 ≤ q.1).map Prod.snd
  | _ => []

theorem ordered_ofFields
    {fields : List (String × Json)}
    (h : ∀ p ∈ fields, p.2.Ordered) :
    (ofFields fields).Ordered := by
  refine .object (Dict.sorted_ofList fields) ?_
  induction fields using List.reverseRecOn with
  | nil => simp [Dict.ofList]
  | append_singleton rest p ih =>
      intro q hq
      rw [Dict.ofList_concat] at hq
      rcases Dict.mem_insert hq with rfl | hrest
      · exact h p (by simp)
      · exact ih (fun p hp => h p (by simp [hp])) q hrest

/-- A reader of values gives values with a property. -/
def Reads
    {α : Type}
    (read : Nat → List Char → Option (α × List Char))
    (good : α → Prop) :
    Prop :=
  ∀ depth s a rest, read depth s = some (a, rest) → good a

section Readers

variable {fuel : Nat}

theorem reads_value
    (hitems : Reads (readItems? fuel) fun items => ∀ v ∈ items, v.Ordered)
    (hfields : Reads (readFields? fuel) fun fields => ∀ p ∈ fields, p.2.Ordered) :
    Reads (readValue? (fuel + 1)) Ordered := by
  intro depth s v rest h
  unfold readValue? at h
  split at h
  · cases h
    exact .null
  · cases h
    exact .bool true
  · cases h
    exact .bool false
  · obtain ⟨p, -, hp⟩ := Option.map_eq_some_iff.mp h
    cases hp
    exact .string _
  · split at h
    · cases h
    · split at h
      · cases h
        exact .array (by simp)
      · obtain ⟨p, hread, hp⟩ := Option.map_eq_some_iff.mp h
        cases hp
        exact .array (hitems _ _ _ _ hread)
  · split at h
    · cases h
    · split at h
      · cases h
        exact .object List.Pairwise.nil (by simp)
      · obtain ⟨p, hread, hp⟩ := Option.map_eq_some_iff.mp h
        cases hp
        exact ordered_ofFields (hfields _ _ _ _ hread)
  · obtain ⟨p, -, hp⟩ := Option.map_eq_some_iff.mp h
    cases hp
    exact .number _

theorem reads_items
    (hvalue : Reads (readValue? fuel) Ordered)
    (hitems : Reads (readItems? fuel) fun items => ∀ v ∈ items, v.Ordered) :
    Reads (readItems? (fuel + 1)) fun items => ∀ v ∈ items, v.Ordered := by
  intro depth s items rest h
  unfold readItems? at h
  split at h
  · cases h
  · rename_i v after hread
    have hfirst : v.Ordered := hvalue _ _ _ _ hread
    split at h
    · obtain ⟨p, hmore, hp⟩ := Option.map_eq_some_iff.mp h
      cases hp
      exact List.forall_mem_cons.mpr ⟨hfirst, hitems _ _ _ _ hmore⟩
    · cases h
      exact List.forall_mem_singleton.mpr hfirst
    · cases h

theorem reads_fields
    (hvalue : Reads (readValue? fuel) Ordered)
    (hfields : Reads (readFields? fuel) fun fields => ∀ p ∈ fields, p.2.Ordered) :
    Reads (readFields? (fuel + 1)) fun fields => ∀ p ∈ fields, p.2.Ordered := by
  intro depth s fields rest h
  unfold readFields? at h
  split at h
  · split at h
    · cases h
    · split at h
      · split at h
        · cases h
        · rename_i v after hread
          have hfirst : v.Ordered := hvalue _ _ _ _ hread
          split at h
          · obtain ⟨p, hmore, hp⟩ := Option.map_eq_some_iff.mp h
            cases hp
            exact List.forall_mem_cons.mpr ⟨hfirst, hfields _ _ _ _ hmore⟩
          · cases h
            exact List.forall_mem_singleton.mpr hfirst
          · cases h
      · cases h
  · cases h

/-- The three readers call each other with less fuel, so the induction is on the fuel of all of them. -/
theorem reads_ordered (fuel : Nat) :
    Reads (readValue? fuel) Ordered ∧
      Reads (readItems? fuel) (fun items => ∀ v ∈ items, v.Ordered) ∧
      Reads (readFields? fuel) fun fields => ∀ p ∈ fields, p.2.Ordered := by
  induction fuel with
  | zero =>
      refine ⟨?_, ?_, ?_⟩ <;> intro depth s a rest h <;> cases h
  | succ fuel ih =>
      obtain ⟨hvalue, hitems, hfields⟩ := ih
      exact ⟨reads_value hitems hfields, reads_items hvalue hitems, reads_fields hvalue hfields⟩

end Readers

/-- In a document that was read the keys of every object stand in order. -/
theorem ordered_of_parse?
    {text : String}
    {v : Json}
    (h : parse? text = some v) :
    v.Ordered := by
  unfold parse? at h
  dsimp only at h
  split at h
  · rename_i read rest hread
    split at h
    · cases h
      exact (reads_ordered _).1 _ _ _ _ hread
    · cases h
  · cases h

end Json

namespace QueryStep

/-- The order of the keys is the order of the values that a step over every child gives. -/
theorem reach_every
    {v : Json}
    (h : v.Ordered) :
    every.reach v = v.children := by
  cases h with
  | @object fields keys _ =>
      have hkeys : fields.Pairwise fun p q => decide (p.1 ≤ q.1) = true :=
        keys.imp fun hlt => decide_eq_true hlt.le
      rw [reach, Json.children, List.mergeSort_of_pairwise hkeys]
  | _ => rfl

theorem ordered_of_mem_reach
    {step : QueryStep}
    {v w : Json}
    (h : v.Ordered)
    (hw : w ∈ step.reach v) :
    w.Ordered := by
  cases step with
  | key name =>
      cases h with
      | object keys each => exact each (name, w) (Dict.mem_of_get? (by simpa [reach, Json.field?] using hw))
      | _ => simp [reach, Json.field?] at hw
  | index i =>
      cases h with
      | array each => exact each w (List.mem_of_getElem? (by simpa [reach, Json.item?] using hw))
      | _ => simp [reach, Json.item?] at hw
  | every =>
      cases h with
      | array each => exact each w hw
      | object keys each =>
          obtain ⟨p, hp, rfl⟩ := List.mem_map.mp hw
          exact each p hp
      | _ => cases hw

/-- A key or an index gives at most one value. -/
theorem length_reach_le
    {step : QueryStep}
    (h : step ≠ every)
    (v : Json) :
    (step.reach v).length ≤ 1 := by
  cases step with
  | key name => cases hv : v.field? name <;> simp [reach, hv]
  | index i => cases hv : v.item? i <;> simp [reach, hv]
  | every => exact absurd rfl h

end QueryStep

namespace Query

/-! ## The values that a query reaches -/

/-- The values that a query reaches from a value, in their order. -/
def reached : Query → Json → List Json
  | [], v => [v]
  | step :: rest, v => (step.reach v).flatMap (reached rest)

/-- What a query contributes to a row: all items of its answer where it takes every child somewhere, and
else its answer, if there is one. -/
def found
    (q : Query)
    (v : Json) :
    List Json :=
  if .every ∈ q then (q.run v).elim [] Json.children else (q.run v).toList

section Reached

variable {p q : Query}
variable {v : Json}
variable {f : Frontier}

theorem values_foldl
    (q : Query)
    (f : Frontier) :
    (q.foldl Frontier.advance f).values = f.values.flatMap q.reached := by
  induction q generalizing f with
  | nil => simp [reached]
  | cons step rest ih =>
      rw [List.foldl_cons, ih, Frontier.advance, List.flatMap_assoc]
      rfl

theorem fannedOut_foldl_of_not_mem
    (h : QueryStep.every ∉ q)
    (f : Frontier) :
    (q.foldl Frontier.advance f).fannedOut = f.fannedOut := by
  induction q generalizing f with
  | nil => rfl
  | cons step rest ih =>
      obtain ⟨hstep, hrest⟩ := not_or.mp (List.mem_cons.not.mp h)
      rw [List.foldl_cons, ih hrest, Frontier.advance]
      simp [Ne.symm hstep]

theorem fannedOut_foldl
    (q : Query)
    (h : f.fannedOut = true) :
    (q.foldl Frontier.advance f).fannedOut = true := by
  induction q generalizing f with
  | nil => exact h
  | cons step rest ih => exact ih (by simp [Frontier.advance, h])

/-- A query that has not met a value with a step over every child reaches nothing. -/
theorem values_foldl_of_not_fannedOut
    (h : QueryStep.every ∈ q)
    (hfan : (q.foldl Frontier.advance f).fannedOut = false) :
    (q.foldl Frontier.advance f).values = [] := by
  induction q generalizing f with
  | nil => cases h
  | cons step rest ih =>
      rw [List.foldl_cons] at hfan ⊢
      by_cases hrest : QueryStep.every ∈ rest
      · exact ih hrest hfan
      · obtain rfl : QueryStep.every = step := (List.mem_cons.mp h).resolve_right hrest
        rw [fannedOut_foldl_of_not_mem hrest, Frontier.advance] at hfan
        have hnone : f.values = [] := by
          simpa using (Bool.or_eq_false_iff.mp hfan).2
        rw [values_foldl, Frontier.advance, hnone]
        rfl

/-- Without a step over every child at most one value is reached. -/
theorem length_reached_le
    (h : QueryStep.every ∉ q)
    (v : Json) :
    (q.reached v).length ≤ 1 := by
  induction q generalizing v with
  | nil => rfl
  | cons step rest ih =>
      obtain ⟨hstep, hrest⟩ := not_or.mp (List.mem_cons.not.mp h)
      have hfirst := QueryStep.length_reach_le (Ne.symm hstep) v
      rw [reached]
      match hreach : step.reach v with
      | [] => simp
      | [w] => simpa using ih hrest w
      | _ :: _ :: _ =>
          rw [hreach] at hfirst
          simp at hfirst

theorem ordered_of_mem_reached
    {w : Json}
    (h : v.Ordered)
    (hw : w ∈ q.reached v) :
    w.Ordered := by
  induction q generalizing v with
  | nil =>
      obtain rfl := List.mem_singleton.mp hw
      exact h
  | cons step rest ih =>
      obtain ⟨u, hu, hrest⟩ := List.mem_flatMap.mp hw
      exact ih (QueryStep.ordered_of_mem_reach h hu) hrest

/-! ## The answer of a query -/

/-- The answer of a query without a step over every child is the value that it reaches. -/
theorem toList_run
    (h : QueryStep.every ∉ q)
    (v : Json) :
    (q.run v).toList = q.reached v := by
  have hvalues : (q.foldl Frontier.advance ⟨[v], false⟩).values = q.reached v := by
    rw [values_foldl]
    simp
  have hfan : (q.foldl Frontier.advance ⟨[v], false⟩).fannedOut = false :=
    fannedOut_foldl_of_not_mem h _
  have hone := length_reached_le h v
  rw [run, hvalues, hfan, if_neg Bool.false_ne_true]
  match hreached : q.reached v with
  | [] => rfl
  | [w] => rfl
  | _ :: _ :: _ =>
      rw [hreached] at hone
      simp at hone

/-- What a query contributes to a row is what it reaches. -/
theorem found_eq
    (q : Query)
    (v : Json) :
    q.found v = q.reached v := by
  unfold found
  split
  next h =>
    have hvalues : (q.foldl Frontier.advance ⟨[v], false⟩).values = q.reached v := by
      rw [values_foldl]
      simp
    rw [← hvalues, run]
    cases hfan : (q.foldl Frontier.advance ⟨[v], false⟩).fannedOut with
    | true => rfl
    | false =>
        rw [values_foldl_of_not_fannedOut h hfan]
        rfl
  next h => exact toList_run h v

/-- The answer of a query that begins with a step over every child. -/
theorem run_every
    (rest : Query)
    (v : Json) :
    run (.every :: rest) v =
      some (.array ((QueryStep.every.reach v).flatMap rest.reached)) := by
  have hfan : (rest.foldl Frontier.advance ⟨QueryStep.every.reach v, true⟩).fannedOut = true :=
    fannedOut_foldl rest rfl
  have hfirst : Frontier.advance ⟨[v], false⟩ .every = ⟨QueryStep.every.reach v, true⟩ := by
    simp [Frontier.advance]
  rw [run, List.foldl_cons, hfirst, hfan, values_foldl]
  rfl

/-- Where nothing was reached there is no answer. -/
theorem foldl_advance_nil (q : Query) :
    q.foldl Frontier.advance ⟨[], false⟩ = ⟨[], false⟩ := by
  induction q with
  | nil => rfl
  | cons step rest ih =>
      rw [List.foldl_cons, Frontier.advance]
      simpa using ih

/-- Keys and indices lead to one value or to none, and the rest of a query starts there. -/
theorem run_append_of_not_mem
    (h : QueryStep.every ∉ p)
    (q : Query)
    (v : Json) :
    run (p ++ q) v = (p.run v).bind q.run := by
  have hfrontier : p.foldl Frontier.advance ⟨[v], false⟩ = ⟨(p.run v).toList, false⟩ := by
    have hvalues := values_foldl p ⟨[v], false⟩
    have hfan := fannedOut_foldl_of_not_mem h ⟨[v], false⟩
    rw [toList_run h]
    generalize p.foldl Frontier.advance ⟨[v], false⟩ = f at hvalues hfan
    obtain ⟨values, fannedOut⟩ := f
    simp_all
  rw [run, List.foldl_append, hfrontier]
  cases p.run v with
  | none =>
      rw [Option.toList_none, foldl_advance_nil]
      rfl
  | some u => rfl

end Reached

/-- A query may be cut where only keys and indices stand before: if these lead nowhere there is no answer,
and otherwise the answer is that of the rest for the value that they lead to. If the rest begins with a
step over every child, this is one array, of what the steps behind it find in each child, by the order of
the document. Documents that were read have their keys in order. -/
theorem run_append
    {p : Query}
    (hp : QueryStep.every ∉ p)
    (q : Query)
    (v : Json) :
    (p.run v = none → run (p ++ q) v = none) ∧
      (∀ u, p.run v = some u →
        run (p ++ q) v = q.run u ∧
          (v.Ordered → ∀ rest, q = .every :: rest →
            run (p ++ q) v = some (.array (u.children.flatMap (found rest))))) ∧
      ∀ text, Json.parse? text = some v → v.Ordered := by
  have hcut := run_append_of_not_mem hp q v
  refine ⟨fun hnone => ?_, fun u hu => ?_, fun text => Json.ordered_of_parse?⟩
  · rw [hcut, hnone]
    rfl
  · have hrun : run (p ++ q) v = q.run u := by
      rw [hcut, hu]
      rfl
    refine ⟨hrun, ?_⟩
    rintro hv rest rfl
    have hordered : u.Ordered := by
      refine ordered_of_mem_reached hv (q := p) ?_
      rw [← toList_run hp, hu]
      exact List.mem_singleton_self u
    have hfound : found rest = reached rest := funext (found_eq rest)
    rw [hrun, run_every, hfound, QueryStep.reach_every hordered]

/-- An object with lists in some of its values. -/
def listsObject : Json :=
  .object
    [ ("a", .object [("x", .array [.ofInt 3])]),
      ("b", .object [("x", .array [.ofInt 1, .ofInt 2])]), ("c", .ofInt 7) ]

/-- A document with that object. -/
def listsDocument : Json :=
  .object [("m", listsObject)]

theorem ordered_listsDocument :
    listsDocument.Ordered := by
  have hlist (items : List Int) : (Json.object [("x", .array (items.map Json.ofInt))]).Ordered := by
    refine .object (List.pairwise_singleton _ _) (List.forall_mem_singleton.mpr (.array ?_))
    intro v hv
    obtain ⟨n, -, rfl⟩ := List.mem_map.mp hv
    exact .number _
  have hobject : listsObject.Ordered := by
    refine .object (by unfold Dict.Sorted; decide) ?_
    intro p hp
    simp only [List.mem_cons, List.not_mem_nil, or_false] at hp
    rcases hp with rfl | rfl | rfl
    · exact hlist [3]
    · exact hlist [1, 2]
    · exact .number _
  exact .object (List.pairwise_singleton _ _) (List.forall_mem_singleton.mpr hobject)

/-- The value without lists gives nothing, and the later step over every child puts all items into one
row. -/
theorem run_append_lists :
    QueryStep.every ∉ [QueryStep.key "m"] ∧
      run ([.key "m"] ++ [.every, .key "x", .every]) listsDocument =
        some (.array [.ofInt 3, .ofInt 1, .ofInt 2]) ∧
      run ([.key "n"] ++ [.every]) listsDocument = none := by
  have hone : QueryStep.every ∉ [QueryStep.key "m"] := by decide
  refine ⟨hone, ?_, ?_⟩
  · obtain ⟨-, hthere, -⟩ := run_append hone [.every, .key "x", .every] listsDocument
    obtain ⟨-, hrow⟩ := hthere listsObject rfl
    rw [hrow ordered_listsDocument _ rfl]
    cbv
  · exact (run_append (p := [.key "n"]) (by decide) [.every] _).1 rfl

end Query
end Runbook
