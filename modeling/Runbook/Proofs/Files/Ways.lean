import Runbook.Files.Disk
import Runbook.Proofs.Files.Places

/-!
# Ways through a disk

Following the parts of a path into a directory is a walk: a part stays, goes back, goes down into a
directory, or is a link whose target is walked before the rest. Such a walk says where the path leads
whatever comes behind it, parts that stay do not matter for it, and a change at a place that it does
not pass leaves it a walk. Whatever parts lead to, they lead there with any number of links, unless
the links run out, and by a walk to their last name.

Main statements: `Enters.follow_append`, `Leads.exists_enters` and `Enters.put`.
-/

namespace Runbook
namespace Disk

/-- A part of a path that is looked up in a directory. -/
structure IsNamed (part : List Char) : Prop where
  ne_nil : part ≠ []
  ne_here : part ≠ ['.']
  ne_up : part ≠ ['.', '.']
  short : (String.ofList part).utf8ByteSize ≤ maxName

theorem isNamed_of_short
    {s : String}
    (h : s.toList ≠ [] ∧ s.toList ≠ ['.'] ∧ s.toList ≠ ['.', '.'])
    (hshort : s.utf8ByteSize ≤ maxName) :
    IsNamed s.toList :=
  ⟨h.1, h.2.1, h.2.2, by rwa [String.ofList_toList]⟩

/-- Whether a part of a path leads anywhere. -/
def isActive (part : List Char) : Bool :=
  part ≠ [] ∧ part ≠ ['.']

theorem IsNamed.isActive
    {part : List Char}
    (h : IsNamed part) :
    isActive part = true := by
  simp [Disk.isActive, h.ne_nil, h.ne_here]

/-- The parts of a path lead from a place into a directory, with so many links left to follow. -/
inductive Enters (d : Disk) : Nat → Place → List (List Char) → Nat → Place → Prop where
  | done
      {links : Nat}
      {p : Place}
      {es : List (String × FileTree)}
      (here : d.get? p = some (.directory es)) :
      Enters d links p [] links p
  | stay
      {links left : Nat}
      {p q : Place}
      {es : List (String × FileTree)}
      {part : List Char}
      {rest : List (List Char)}
      (here : d.get? p = some (.directory es))
      (idle : isActive part = false)
      (behind : Enters d links p rest left q) :
      Enters d links p (part :: rest) left q
  | up
      {links left : Nat}
      {p q : Place}
      {es : List (String × FileTree)}
      {rest : List (List Char)}
      (here : d.get? p = some (.directory es))
      (behind : Enters d links p.dropLast rest left q) :
      Enters d links p (['.', '.'] :: rest) left q
  | down
      {links left : Nat}
      {p q : Place}
      {es : List (String × FileTree)}
      {part : List Char}
      {rest : List (List Char)}
      (here : d.get? p = some (.directory es))
      (named : IsNamed part)
      (behind : Enters d links (p ++ [String.ofList part]) rest left q) :
      Enters d links p (part :: rest) left q
  | link
      {links left : Nat}
      {p q : Place}
      {es : List (String × FileTree)}
      {part : List Char}
      {rest : List (List Char)}
      {target : String}
      (here : d.get? p = some (.directory es))
      (named : IsNamed part)
      (found : d.get? (p ++ [String.ofList part]) = some (.link target))
      (behind : Enters d links (turn p target.toList)
        (Text.splitOn '/' target.toList ++ rest) left q) :
      Enters d (links + 1) p (part :: rest) left q

/-! ## One part -/

section Part

variable {d : Disk}
variable {final : Bool}
variable {links : Nat}
variable {p : Place}
variable {es : List (String × FileTree)}
variable {part : List Char}
variable {rest : List (List Char)}

theorem follow_nil
    {t : FileTree}
    (h : d.get? p = some t) :
    follow d final links p [] = .ok (.found p t) := by
  rw [follow, h]

theorem follow_stay
    (h : d.get? p = some (.directory es))
    (idle : isActive part = false) :
    follow d final links p (part :: rest) = follow d final links p rest := by
  have hidle : part = [] ∨ part = ['.'] := by
    rw [isActive, decide_eq_false_iff_not] at idle
    tauto
  rw [follow, h]
  simp [hidle]

theorem follow_up
    (h : d.get? p = some (.directory es)) :
    follow d final links p (['.', '.'] :: rest) = follow d final links p.dropLast rest := by
  rw [follow, h]
  simp

/-- A name is looked up. -/
theorem follow_named
    (h : d.get? p = some (.directory es))
    (named : IsNamed part) :
    follow d final links p (part :: rest) =
      match d.get? (p ++ [String.ofList part]) with
      | some (.link target) =>
          if !final && rest.isEmpty then .ok (.found (p ++ [String.ofList part]) (.link target))
          else
            match links with
            | 0 => .error .tooManyLinks
            | left + 1 =>
                follow d final left (turn p target.toList)
                  (Text.splitOn '/' target.toList ++ rest)
      | some _ => follow d final links (p ++ [String.ofList part]) rest
      | none =>
          if rest.all List.isEmpty then .ok (.free p (String.ofList part) (!rest.isEmpty))
          else .error .noEntry := by
  have hshort : ¬ maxName < (String.ofList part).utf8ByteSize := Nat.not_lt.mpr named.short
  have hempty : part.isEmpty = false := by simpa using named.ne_nil
  have hstays : (part.isEmpty || decide (part = ['.'])) = false := by simp [hempty, named.ne_here]
  rw [FileTree.get?_entry h, follow, h]
  dsimp only
  refine (if_neg (by simp [hstays])).trans ((if_neg named.ne_up).trans ((if_neg hshort).trans ?_))
  cases Dict.get? es (String.ofList part) with
  | none => rfl
  | some t => cases t <;> rfl

/-- A name that is not there is free, or nothing is below it. -/
theorem follow_missing
    (h : d.get? p = some (.directory es))
    (named : IsNamed part)
    (missing : d.get? (p ++ [String.ofList part]) = none) :
    follow d final links p (part :: rest) =
      if rest.all List.isEmpty then .ok (.free p (String.ofList part) (!rest.isEmpty))
      else .error .noEntry := by
  rw [follow_named h named, missing]

theorem follow_down
    {t : FileTree}
    (h : d.get? p = some (.directory es))
    (named : IsNamed part)
    (found : d.get? (p ++ [String.ofList part]) = some t)
    (plain : t.isLink = false) :
    follow d final links p (part :: rest) =
      follow d final links (p ++ [String.ofList part]) rest := by
  rw [follow_named h named, found]
  cases t with
  | link target => cases plain
  | file content traits => rfl
  | device kind => rfl
  | directory es => rfl

theorem follow_link
    {target : String}
    (h : d.get? p = some (.directory es))
    (named : IsNamed part)
    (found : d.get? (p ++ [String.ofList part]) = some (.link target))
    (meant : final = true ∨ rest ≠ []) :
    follow d final (links + 1) p (part :: rest) =
      follow d final links (turn p target.toList)
        (Text.splitOn '/' target.toList ++ rest) := by
  have hmeant : (!final && rest.isEmpty) = false := by
    rcases meant with rfl | hrest
    · rfl
    · simp [hrest]
  rw [follow_named h named, found]
  simp [hmeant]

theorem follow_lastLink
    {target : String}
    (h : d.get? p = some (.directory es))
    (named : IsNamed part)
    (found : d.get? (p ++ [String.ofList part]) = some (.link target)) :
    follow d false links p [part] =
      .ok (.found (p ++ [String.ofList part]) (.link target)) := by
  rw [follow_named h named, found]
  rfl

end Part

namespace Enters

variable {d : Disk}
variable {links left : Nat}
variable {p q : Place}
variable {parts : List (List Char)}

theorem start
    (h : Enters d links p parts left q) :
    ∃ es, d.get? p = some (.directory es) := by
  cases h with
  | done here => exact ⟨_, here⟩
  | stay here => exact ⟨_, here⟩
  | up here => exact ⟨_, here⟩
  | down here => exact ⟨_, here⟩
  | link here => exact ⟨_, here⟩

theorem stop
    (h : Enters d links p parts left q) :
    ∃ es, d.get? q = some (.directory es) := by
  induction h with
  | done here => exact ⟨_, here⟩
  | stay _ _ _ ih => exact ih
  | up _ _ ih => exact ih
  | down _ _ _ ih => exact ih
  | link _ _ _ _ ih => exact ih

/-- What comes behind a walk is followed from where the walk leads. -/
theorem follow_append
    (h : Enters d links p parts left q)
    (final : Bool)
    {behind : List (List Char)}
    (meant : final = true ∨ behind ≠ []) :
    follow d final links p (parts ++ behind) = follow d final left q behind := by
  induction h with
  | done here => rfl
  | stay here idle _ ih =>
      rw [List.cons_append, follow_stay here idle]
      exact ih
  | up here _ ih =>
      rw [List.cons_append, follow_up here]
      exact ih
  | down here named hrest ih =>
      obtain ⟨es, hes⟩ := hrest.start
      rw [List.cons_append, follow_down here named hes rfl]
      exact ih
  | link here named found _ ih =>
      rw [List.cons_append,
        follow_link here named found (meant.imp_right (List.append_ne_nil_of_right_ne_nil _)),
        ← List.append_assoc]
      exact ih

/-- A walk is found with all links followed. -/
theorem follow_eq
    (h : Enters d links p parts left q) :
    ∃ es, follow d true links p parts = .ok (.found q (.directory es)) := by
  obtain ⟨es, hes⟩ := h.stop
  have hfollow : follow d true links p (parts ++ []) = follow d true left q [] :=
    h.follow_append true (Or.inl rfl)
  rw [List.append_nil, follow_nil hes] at hfollow
  exact ⟨es, hfollow⟩

/-- A walk leads to something when a link at its end counts as itself. -/
theorem exists_follow_entry
    (h : Enters d links p parts left q) :
    ∃ place t, follow d false links p parts = .ok (.found place t) := by
  induction h with
  | done here => exact ⟨_, _, follow_nil here⟩
  | stay here idle _ ih =>
      rw [follow_stay here idle]
      exact ih
  | up here _ ih =>
      rw [follow_up here]
      exact ih
  | down here named hrest ih =>
      obtain ⟨es, hes⟩ := hrest.start
      rw [follow_down here named hes rfl]
      exact ih
  | @link links left p q es part rest target here named found _ ih =>
      by_cases hrest : rest = []
      · subst hrest
        exact ⟨_, _, follow_lastLink here named found⟩
      · rw [follow_link here named found (Or.inr hrest)]
        exact ih

/-- With another number of links a walk leads to the same place, or nowhere. -/
theorem eq_of_follow
    (h : Enters d links p parts left q)
    {links' : Nat}
    {spot : Spot}
    (hspot : follow d true links' p parts = .ok spot) :
    ∃ es, spot = .found q (.directory es) := by
  induction h generalizing links' with
  | done here =>
      rw [follow_nil here] at hspot
      cases hspot
      exact ⟨_, rfl⟩
  | stay here idle _ ih =>
      rw [follow_stay here idle] at hspot
      exact ih hspot
  | up here _ ih =>
      rw [follow_up here] at hspot
      exact ih hspot
  | down here named hrest ih =>
      obtain ⟨es, hes⟩ := hrest.start
      rw [follow_down here named hes rfl] at hspot
      exact ih hspot
  | link here named found _ ih =>
      cases links' with
      | zero =>
          rw [follow_named here named, found] at hspot
          cases hspot
      | succ links' =>
          rw [follow_link here named found (Or.inl rfl)] at hspot
          exact ih hspot

/-- A walk is cut where its parts are. -/
theorem exists_front
    {front behind : List (List Char)}
    (h : Enters d links p (front ++ behind) left q) :
    ∃ between r, Enters d links p front between r := by
  generalize hparts : front ++ behind = parts at h
  induction h generalizing front with
  | done here =>
      obtain ⟨rfl, -⟩ := List.append_eq_nil_iff.mp hparts
      exact ⟨_, _, .done here⟩
  | stay here idle _ ih =>
      cases front with
      | nil => exact ⟨_, _, .done here⟩
      | cons part front =>
          obtain ⟨rfl, hrest⟩ := List.cons_eq_cons.mp hparts
          obtain ⟨between, r, hfront⟩ := ih hrest
          exact ⟨between, r, .stay here idle hfront⟩
  | up here _ ih =>
      cases front with
      | nil => exact ⟨_, _, .done here⟩
      | cons part front =>
          obtain ⟨rfl, hrest⟩ := List.cons_eq_cons.mp hparts
          obtain ⟨between, r, hfront⟩ := ih hrest
          exact ⟨between, r, .up here hfront⟩
  | down here named _ ih =>
      cases front with
      | nil => exact ⟨_, _, .done here⟩
      | cons part front =>
          obtain ⟨rfl, hrest⟩ := List.cons_eq_cons.mp hparts
          obtain ⟨between, r, hfront⟩ := ih hrest
          exact ⟨between, r, .down here named hfront⟩
  | @link links left p q es part rest target here named found _ ih =>
      cases front with
      | nil => exact ⟨_, _, .done here⟩
      | cons part front =>
          obtain ⟨rfl, hrest⟩ := List.cons_eq_cons.mp hparts
          have hwhole := congrArg (Text.splitOn '/' target.toList ++ ·) hrest
          obtain ⟨between, r, hfront⟩ := ih ((List.append_assoc _ _ _).trans hwhole)
          exact ⟨between, r, .link here named found hfront⟩

/-- Parts that stay may come before a walk. -/
theorem stay_append
    (h : Enters d links p parts left q)
    {idle : List (List Char)}
    (hidle : ∀ part ∈ idle, ¬ isActive part = true) :
    Enters d links p (idle ++ parts) left q := by
  induction idle with
  | nil => exact h
  | cons part idle ih =>
      obtain ⟨es, hes⟩ := h.start
      have hpart := hidle part List.mem_cons_self
      exact .stay hes (by simpa using hpart)
        (ih fun part' hmem => hidle part' (List.mem_cons_of_mem _ hmem))

/-- Only the parts that lead somewhere matter for a walk. -/
theorem of_filter_eq
    (h : Enters d links p parts left q)
    {parts' : List (List Char)}
    (hsame : parts.filter isActive = parts'.filter isActive) :
    Enters d links p parts' left q := by
  induction h generalizing parts' with
  | @done links p es here =>
      have hidle := List.filter_eq_nil_iff.mp hsame.symm
      have hhere : Enters d links p [] links p := .done here
      have hall := hhere.stay_append hidle
      rwa [List.append_nil] at hall
  | stay here idle _ ih =>
      rw [List.filter_cons_of_neg (by simp [idle])] at hsame
      exact ih hsame
  | up here _ ih =>
      rw [List.filter_cons_of_pos (by decide)] at hsame
      obtain ⟨idle, rest', rfl, hidle, -, hrest⟩ := List.filter_eq_cons_iff.mp hsame.symm
      exact (Enters.up here (ih hrest.symm)).stay_append hidle
  | down here named _ ih =>
      rw [List.filter_cons_of_pos named.isActive] at hsame
      obtain ⟨idle, rest', rfl, hidle, -, hrest⟩ := List.filter_eq_cons_iff.mp hsame.symm
      exact (Enters.down here named (ih hrest.symm)).stay_append hidle
  | @link links left p q es part rest target here named found _ ih =>
      rw [List.filter_cons_of_pos named.isActive] at hsame
      obtain ⟨idle, rest', rfl, hidle, -, hrest⟩ := List.filter_eq_cons_iff.mp hsame.symm
      have hbehind := @ih (Text.splitOn '/' target.toList ++ rest') (by
        rw [List.filter_append, List.filter_append, hrest])
      exact (Enters.link here named found hbehind).stay_append hidle

/-- A change at a place leaves a walk as it is, if no directory was there and no link by which a walk
could have passed. -/
theorem put
    {parent : Place}
    {name : String}
    {es : List (String × FileTree)}
    (h : Enters d links p parts left q)
    (hparent : d.get? parent = some (.directory es))
    (hplace : ∀ es', d.get? (parent ++ [name]) ≠ some (.directory es'))
    (hlink : ∀ target, d.get? (parent ++ [name]) = some (.link target) →
      ∀ links left q, ¬ Enters d links (turn parent target.toList)
        (Text.splitOn '/' target.toList) left q)
    (new : FileTree) :
    Enters (d.put (parent ++ [name]) new) links p parts left q := by
  have hkeep {p : Place} {es' : List (String × FileTree)}
      (hp : d.get? p = some (.directory es')) :
      ∃ es'', (d.put (parent ++ [name]) new).get? p = some (.directory es'') := by
    have hne : p ≠ parent ++ [name] := by
      rintro rfl
      exact hplace _ hp
    obtain ⟨u, hu, rfl | ⟨-, hdir⟩⟩ := FileTree.exists_get?_put hparent hplace hne hp new
    · exact ⟨_, hu⟩
    · obtain ⟨es'', rfl⟩ := FileTree.isDirectory_iff.mp hdir
      exact ⟨es'', hu⟩
  induction h with
  | done here =>
      obtain ⟨es', hes⟩ := hkeep here
      exact .done hes
  | stay here idle _ ih =>
      obtain ⟨es', hes⟩ := hkeep here
      exact .stay hes idle ih
  | up here _ ih =>
      obtain ⟨es', hes⟩ := hkeep here
      exact .up hes ih
  | down here named _ ih =>
      obtain ⟨es', hes⟩ := hkeep here
      exact .down hes named ih
  | @link links left p q es part rest target here named found hrest ih =>
      obtain ⟨es', hes⟩ := hkeep here
      refine .link hes named ?_ ih
      have hne : p ++ [String.ofList part] ≠ parent ++ [name] := by
        intro heq
        rw [heq] at found
        obtain ⟨rfl, -⟩ := List.append_inj' heq rfl
        obtain ⟨between, r, hfront⟩ := hrest.exists_front
        exact hlink _ found _ _ _ hfront
      obtain ⟨u, hu, rfl | ⟨hdir, -⟩⟩ := FileTree.exists_get?_put hparent hplace hne found new
      · exact hu
      · cases hdir

end Enters

/-! ## Where parts lead -/

/-- The parts of a path lead from a place to a spot, with so many links that may be followed. -/
inductive Leads (d : Disk) (final : Bool) : Nat → Place → List (List Char) → Spot → Prop where
  | here
      {links : Nat}
      {p : Place}
      {t : FileTree}
      (here : d.get? p = some t) :
      Leads d final links p [] (.found p t)
  | stay
      {links : Nat}
      {p : Place}
      {es : List (String × FileTree)}
      {part : List Char}
      {rest : List (List Char)}
      {spot : Spot}
      (here : d.get? p = some (.directory es))
      (idle : isActive part = false)
      (behind : Leads d final links p rest spot) :
      Leads d final links p (part :: rest) spot
  | up
      {links : Nat}
      {p : Place}
      {es : List (String × FileTree)}
      {rest : List (List Char)}
      {spot : Spot}
      (here : d.get? p = some (.directory es))
      (behind : Leads d final links p.dropLast rest spot) :
      Leads d final links p (['.', '.'] :: rest) spot
  | down
      {links : Nat}
      {p : Place}
      {es : List (String × FileTree)}
      {part : List Char}
      {rest : List (List Char)}
      {t : FileTree}
      {spot : Spot}
      (here : d.get? p = some (.directory es))
      (named : IsNamed part)
      (found : d.get? (p ++ [String.ofList part]) = some t)
      (plain : t.isLink = false)
      (behind : Leads d final links (p ++ [String.ofList part]) rest spot) :
      Leads d final links p (part :: rest) spot
  | link
      {links : Nat}
      {p : Place}
      {es : List (String × FileTree)}
      {part : List Char}
      {rest : List (List Char)}
      {target : String}
      {spot : Spot}
      (here : d.get? p = some (.directory es))
      (named : IsNamed part)
      (found : d.get? (p ++ [String.ofList part]) = some (.link target))
      (meant : final = true ∨ rest ≠ [])
      (behind : Leads d final links (turn p target.toList)
        (Text.splitOn '/' target.toList ++ rest) spot) :
      Leads d final (links + 1) p (part :: rest) spot
  | lastLink
      {links : Nat}
      {p : Place}
      {es : List (String × FileTree)}
      {part : List Char}
      {target : String}
      (here : d.get? p = some (.directory es))
      (named : IsNamed part)
      (found : d.get? (p ++ [String.ofList part]) = some (.link target))
      (itself : final = false) :
      Leads d final links p [part] (.found (p ++ [String.ofList part]) (.link target))
  | free
      {links : Nat}
      {p : Place}
      {es : List (String × FileTree)}
      {part : List Char}
      {rest : List (List Char)}
      (here : d.get? p = some (.directory es))
      (named : IsNamed part)
      (missing : d.get? (p ++ [String.ofList part]) = none)
      (last : rest.all List.isEmpty = true) :
      Leads d final links p (part :: rest) (.free p (String.ofList part) (!rest.isEmpty))

/-- Parts are followed from a directory. -/
theorem exists_directory_of_follow
    {d : Disk}
    {final : Bool}
    {links : Nat}
    {p : Place}
    {part : List Char}
    {rest : List (List Char)}
    {spot : Spot}
    (h : follow d final links p (part :: rest) = .ok spot) :
    ∃ es, d.get? p = some (.directory es) := by
  rw [follow] at h
  split at h
  · cases h
  · rename_i es hes
    exact ⟨es, hes⟩
  · cases h

/-- A name that is followed has a fitting length. -/
theorem isNamed_of_follow
    {d : Disk}
    {final : Bool}
    {links : Nat}
    {p : Place}
    {es : List (String × FileTree)}
    {part : List Char}
    {rest : List (List Char)}
    {spot : Spot}
    (hes : d.get? p = some (.directory es))
    (hactive : isActive part = true)
    (hup : part ≠ ['.', '.'])
    (h : follow d final links p (part :: rest) = .ok spot) :
    IsNamed part := by
  obtain ⟨hnil, hhere⟩ := of_decide_eq_true hactive
  refine ⟨hnil, hhere, hup, ?_⟩
  by_contra hlong
  rw [follow, hes] at h
  simp [hnil, hhere, hup, Nat.not_le.mp hlong] at h

/-- Parts that are followed to a spot lead to it. -/
theorem leads_of_follow
    {d : Disk}
    {final : Bool} :
    ∀ {links : Nat} {parts : List (List Char)} {p : Place} {spot : Spot},
      follow d final links p parts = .ok spot → Leads d final links p parts spot := by
  intro links
  induction links using Nat.strong_induction_on with
  | h links ihLinks =>
      intro parts
      induction parts with
      | nil =>
          intro p spot h
          rw [follow] at h
          split at h
          · rename_i t ht
            cases h
            exact .here ht
          · cases h
      | cons part rest ih =>
          intro p spot h
          obtain ⟨es, hes⟩ := exists_directory_of_follow h
          by_cases hactive : isActive part = true
          · by_cases hup : part = ['.', '.']
            · subst hup
              rw [follow_up hes] at h
              exact .up hes (ih h)
            · have hnamed := isNamed_of_follow hes hactive hup h
              rw [follow_named hes hnamed] at h
              split at h
              · rename_i target hfound
                split at h
                · rename_i hitself
                  rw [Bool.and_eq_true, Bool.not_eq_true', List.isEmpty_iff] at hitself
                  obtain ⟨hfinal, rfl⟩ := hitself
                  cases h
                  exact .lastLink hes hnamed hfound hfinal
                · rename_i hmeant
                  have hmeant' : final = true ∨ rest ≠ [] := by
                    cases final <;> simp_all
                  cases links with
                  | zero => cases h
                  | succ links =>
                      exact .link hes hnamed hfound hmeant'
                        (ihLinks links (Nat.lt_succ_self _) h)
              · rename_i t hplain hfound
                have hlink : t.isLink = false := FileTree.isLink_eq_false_iff.mpr hplain
                exact .down hes hnamed hfound hlink (ih h)
              · rename_i hmissing
                split at h
                · rename_i hlast
                  cases h
                  exact .free hes hnamed hmissing hlast
                · cases h
          · rw [Bool.not_eq_true] at hactive
            rw [follow_stay hes hactive] at h
            exact .stay hes hactive (ih h)

namespace Leads

variable {d : Disk}
variable {final : Bool}
variable {links : Nat}
variable {p : Place}
variable {parts : List (List Char)}
variable {spot : Spot}

/-- Parts that lead to a spot are followed to it, unless fewer links may be followed. -/
theorem follow_cases
    (h : Leads d final links p parts spot)
    (links' : Nat) :
    follow d final links' p parts = .ok spot ∨
      (links' < links ∧ follow d final links' p parts = .error .tooManyLinks) := by
  induction h generalizing links' with
  | here here => exact Or.inl (follow_nil here)
  | stay here idle _ ih =>
      rw [follow_stay here idle]
      exact ih links'
  | up here _ ih =>
      rw [follow_up here]
      exact ih links'
  | down here named found plain _ ih =>
      rw [follow_down here named found plain]
      exact ih links'
  | @link links p es part rest target spot here named found meant _ ih =>
      cases links' with
      | zero =>
          have hmeant : (!final && rest.isEmpty) = false := by
            rcases meant with rfl | hrest
            · rfl
            · simp [hrest]
          rw [follow_named here named, found]
          simp [hmeant]
      | succ links' =>
          rw [follow_link here named found meant, Nat.succ_lt_succ_iff]
          exact ih links'
  | lastLink here named found itself =>
      subst itself
      exact Or.inl (follow_lastLink here named found)
  | free here named missing last =>
      rw [follow_named here named, missing]
      simp [last]

theorem follow_eq
    (h : Leads d final links p parts spot) :
    follow d final links p parts = .ok spot :=
  (h.follow_cases links).resolve_right fun hfew => Nat.lt_irrefl _ hfew.1

/-- However many links may be followed, parts lead to one spot. -/
theorem eq_of_follow
    (h : Leads d final links p parts spot)
    {links' : Nat}
    {spot' : Spot}
    (hspot : follow d final links' p parts = .ok spot') :
    spot' = spot := by
  rcases h.follow_cases links' with heq | ⟨-, heq⟩
  · rw [hspot] at heq
    exact Except.ok.inj heq
  · rw [hspot] at heq
    cases heq

/-- What is found at the end of parts, or by a name among the last of them, lies below a directory
that the parts before lead into. -/
theorem exists_enters
    {front behind : List (List Char)}
    (h : Leads d final links p (front ++ behind) spot)
    (hbehind : behind ≠ [])
    (hspot : (∃ q t, spot = .found q t) ∨ ∃ part ∈ behind, part ≠ []) :
    ∃ left q, Enters d links p front left q ∧ Leads d final left q behind spot := by
  generalize hparts : front ++ behind = parts at h
  induction h generalizing front with
  | here here => exact absurd (List.append_eq_nil_iff.mp hparts).2 hbehind
  | stay here idle hrest ih =>
      cases front with
      | nil =>
          obtain rfl : behind = _ := hparts
          exact ⟨_, _, .done here, .stay here idle hrest⟩
      | cons part front =>
          obtain ⟨rfl, hfront⟩ := List.cons_eq_cons.mp hparts
          obtain ⟨left, q, hwalk, hleads⟩ := ih hspot hfront
          exact ⟨left, q, .stay here idle hwalk, hleads⟩
  | up here hrest ih =>
      cases front with
      | nil =>
          obtain rfl : behind = _ := hparts
          exact ⟨_, _, .done here, .up here hrest⟩
      | cons part front =>
          obtain ⟨rfl, hfront⟩ := List.cons_eq_cons.mp hparts
          obtain ⟨left, q, hwalk, hleads⟩ := ih hspot hfront
          exact ⟨left, q, .up here hwalk, hleads⟩
  | down here named found plain hrest ih =>
      cases front with
      | nil =>
          obtain rfl : behind = _ := hparts
          exact ⟨_, _, .done here, .down here named found plain hrest⟩
      | cons part front =>
          obtain ⟨rfl, hfront⟩ := List.cons_eq_cons.mp hparts
          obtain ⟨left, q, hwalk, hleads⟩ := ih hspot hfront
          exact ⟨left, q, .down here named hwalk, hleads⟩
  | @link links p es part rest target spot here named found meant hrest ih =>
      cases front with
      | nil =>
          obtain rfl : behind = _ := hparts
          exact ⟨_, _, .done here, .link here named found meant hrest⟩
      | cons part front =>
          obtain ⟨rfl, hfront⟩ := List.cons_eq_cons.mp hparts
          have hwhole := congrArg (Text.splitOn '/' target.toList ++ ·) hfront
          obtain ⟨left, q, hwalk, hleads⟩ := ih hspot ((List.append_assoc _ _ _).trans hwhole)
          exact ⟨left, q, .link here named found hwalk, hleads⟩
  | lastLink here named found itself =>
      cases front with
      | nil =>
          obtain rfl : behind = _ := hparts
          exact ⟨_, _, .done here, .lastLink here named found itself⟩
      | cons part front =>
          obtain ⟨-, hfront⟩ := List.cons_eq_cons.mp hparts
          exact absurd (List.append_eq_nil_iff.mp hfront).2 hbehind
  | free here named missing last =>
      cases front with
      | nil =>
          obtain rfl : behind = _ := hparts
          exact ⟨_, _, .done here, .free here named missing last⟩
      | cons part front =>
          obtain ⟨-, rfl⟩ := List.cons_eq_cons.mp hparts
          obtain ⟨q, t, hfound⟩ | ⟨part', hmem, hne⟩ := hspot
          · cases hfound
          · have hempty := List.all_eq_true.mp last part' (List.mem_append_right _ hmem)
            exact absurd (List.isEmpty_iff.mp hempty) hne

/-- What parts lead to is there. -/
theorem get?_eq
    {q : Place}
    {t : FileTree}
    (h : Leads d final links p parts (.found q t)) :
    d.get? q = some t := by
  generalize hspot : Spot.found q t = spot at h
  induction h with
  | here here =>
      cases hspot
      exact here
  | stay here idle _ ih => exact ih hspot
  | up here _ ih => exact ih hspot
  | down here named found plain _ ih => exact ih hspot
  | link here named found meant _ ih => exact ih hspot
  | lastLink here named found itself =>
      cases hspot
      exact found
  | free here named missing last => cases hspot

/-- A free spot is a name that a directory does not have. -/
theorem exists_missing
    {parent : Place}
    {name : String}
    {slash : Bool}
    (h : Leads d final links p parts (.free parent name slash)) :
    ∃ part, IsNamed part ∧ name = String.ofList part ∧
      (∃ es, d.get? parent = some (.directory es)) ∧ d.get? (parent ++ [name]) = none := by
  generalize hspot : Spot.free parent name slash = spot at h
  induction h with
  | here here => cases hspot
  | stay here idle _ ih => exact ih hspot
  | up here _ ih => exact ih hspot
  | down here named found plain _ ih => exact ih hspot
  | link here named found meant _ ih => exact ih hspot
  | lastLink here named found itself => cases hspot
  | free here named missing last =>
      cases hspot
      exact ⟨_, named, rfl, ⟨_, here⟩, missing⟩

end Leads

end Disk
end Runbook
