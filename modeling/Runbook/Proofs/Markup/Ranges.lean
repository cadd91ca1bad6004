import Runbook.Proofs.Markup.Clean

/-!
# Ranges of elements

The tags that are found in a text follow one another without overlapping, whatever the text is. So the
range of an element runs forwards, and its content lies within it: after its opening tag and before its
closing tag. All of it lies in the range that is searched, and elements follow one another as tags do. Since
the content is narrower than the element, no way down from element to element goes on forever.

Main statements: `ordered_of_mem_elementsIn` and `elementsIn_standIn`.
-/

namespace Runbook
namespace Markup

open Text

/-! ## Tags -/

/-- No tag begins within the characters that are skipped. -/
theorem skipped_of_mem_tagsFrom :
    ∀ (s : List Char) (offset skip : Nat) (t : Tag), t ∈ tagsFrom offset skip s →
      offset + byteSize (s.take skip) ≤ t.span.start
  | [], _, _, t, h => by simp [tagsFrom] at h
  | c :: s, offset, skip + 1, t, h => by
      have hle := skipped_of_mem_tagsFrom s (offset + c.utf8Size) skip t (by simpa [tagsFrom] using h)
      rw [List.take_succ_cons, byteSize_cons]
      omega
  | c :: s, offset, 0, t, h => by
      rw [List.take_zero, byteSize_nil, Nat.add_zero]
      exact start_of_mem_tagsFrom (c :: s) offset 0 t h

/-- A tag is behind another one when it begins where that ends, or later. -/
def Tag.Before (t u : Tag) : Prop :=
  t.span.stop ≤ u.span.start

/-- The scan goes on behind each tag that it finds. -/
theorem pairwise_tagsFrom :
    ∀ (s : List Char) (offset skip : Nat), (tagsFrom offset skip s).Pairwise Tag.Before
  | [], _, _ => by
      rw [tagsFrom]
      exact .nil
  | _ :: s, _, skip + 1 => by
      rw [tagsFrom]
      exact pairwise_tagsFrom s _ skip
  | c :: s, offset, 0 => by
      cases htag : tagAt? (c :: s) with
      | none =>
          rw [tagsFrom_of_none offset htag]
          exact pairwise_tagsFrom s _ 0
      | some form =>
          obtain ⟨u, -, -, hlength⟩ := exists_of_tagAt? htag
          have hpos : 1 ≤ form.length := by
            rw [hlength]
            exact Nat.le_add_left 1 (u.length + 1)
          have htake : (c :: s).take form.length = c :: s.take (form.length - 1) := by
            rw [← List.take_succ_cons, Nat.sub_add_cancel hpos]
          simp only [tagsFrom, htag, htake]
          refine List.pairwise_cons.mpr ⟨fun t ht => ?_, pairwise_tagsFrom s _ _⟩
          have hskip := skipped_of_mem_tagsFrom s _ _ t ht
          simp only [Tag.Before, byteSize_cons]
          omega

theorem start_le_stop_of_mem_tagsFrom
    {s : List Char}
    {offset skip : Nat}
    {t : Tag}
    (h : t ∈ tagsFrom offset skip s) :
    t.span.start ≤ t.span.stop := by
  obtain ⟨before, u, after, -, hspan⟩ := exists_of_mem_tagsFrom h
  rw [hspan, byteSize_append]
  exact Nat.add_le_add_left (Nat.le_add_right _ _) _

/-- The tags in a range of a document run forwards and follow one another. -/
theorem ordered_tagsIn
    (doc : List Char)
    (range : Span) :
    (∀ t ∈ tagsIn doc range, t.span.start ≤ t.span.stop) ∧
      (tagsIn doc range).Pairwise Tag.Before := by
  rw [tagsIn]
  split
  · simp
  · rename_i s _
    refine ⟨fun t ht => start_le_stop_of_mem_tagsFrom (List.mem_of_mem_filter ht), ?_⟩
    exact (pairwise_tagsFrom s range.start 0).sublist List.filter_sublist

/-! ## Elements -/

/-- The range of an element runs forwards, and so does that of its content within it. -/
structure Element.Ordered (e : Element) : Prop where
  opens : e.outer.start ≤ e.inner.start
  content : e.inner.start ≤ e.inner.stop
  closes : e.inner.stop ≤ e.outer.stop

theorem ordered_ofEmptyTag
    {t : Tag}
    (ht : t.span.start ≤ t.span.stop) :
    (Element.ofEmptyTag t).Ordered :=
  ⟨ht, Nat.le_refl _, Nat.le_refl _⟩

theorem ordered_between
    {t u : Tag}
    (ht : t.span.start ≤ t.span.stop)
    (hu : u.span.start ≤ u.span.stop)
    (h : t.Before u) :
    (Element.between t u).Ordered :=
  ⟨ht, h, hu⟩

/-- Elements are ordered if the tags are that they are made of, and open tags stand before the rest. -/
theorem ordered_of_mem_elementsOf
    {tags stack : List Tag}
    {e : Element}
    (hspan : ∀ t ∈ tags ++ stack, t.span.start ≤ t.span.stop)
    (htags : tags.Pairwise Tag.Before)
    (hstack : ∀ t ∈ stack, ∀ u ∈ tags, t.Before u)
    (h : e ∈ elementsOf tags stack) :
    e.Ordered := by
  induction tags generalizing stack with
  | nil => simp [elementsOf] at h
  | cons t rest ih =>
      have ht := hspan t (by simp)
      obtain ⟨hfirst, hrest⟩ := List.pairwise_cons.mp htags
      rcases mem_elementsOf_cons h with rfl | ⟨x, hx, rfl⟩ | ⟨stack', hsub, hmem⟩
      · exact ordered_ofEmptyTag ht
      · exact ordered_between (hspan x (by simp [hx])) ht (hstack x hx t List.mem_cons_self)
      · refine ih (fun u hu => ?_) hrest (fun x hx u hu => ?_) hmem
        · rcases List.mem_append.mp hu with hu | hu
          · exact hspan u (by simp [hu])
          · rcases List.mem_cons.mp (hsub hu) with rfl | hu
            · exact ht
            · exact hspan u (by simp [hu])
        · rcases List.mem_cons.mp (hsub hx) with rfl | hx
          · exact hfirst u hu
          · exact hstack x hx u (List.mem_cons_of_mem _ hu)

/-- What is found in any range of any text is ordered. -/
theorem ordered_of_mem_elementsIn
    {doc : List Char}
    {range : Span}
    {e : Element}
    (h : e ∈ elementsIn doc range) :
    e.Ordered := by
  obtain ⟨hspan, htags⟩ := ordered_tagsIn doc range
  refine ordered_of_mem_elementsOf (fun t ht => hspan t ?_) htags (by simp) h
  simpa using ht

/-! ## Where elements stand -/

/-- Of two beginnings of a text the one with fewer bytes begins the other one. -/
theorem prefix_of_byteSize_le
    {s u v : List Char}
    (hu : u <+: s)
    (hv : v <+: s)
    (hle : byteSize u ≤ byteSize v) :
    u <+: v := by
  rcases List.prefix_or_prefix_of_prefix hu hv with h | ⟨w, rfl⟩
  · exact h
  · have hw : w = [] := by
      by_contra hne
      have hpos := byteSize_pos hne
      rw [byteSize_append] at hle
      omega
    rw [hw, List.append_nil]

/-- Where a tag of a range stands in the document. -/
theorem exists_of_mem_tagsIn
    {doc : List Char}
    {range : Span}
    {t : Tag}
    (h : t ∈ tagsIn doc range) :
    range.start ≤ t.span.start ∧ t.span.stop ≤ range.stop ∧
      ∃ before u after, doc = before ++ ('<' :: (u ++ ['>'])) ++ after ∧
        t.span = ⟨byteSize before, byteSize (before ++ '<' :: (u ++ ['>']))⟩ := by
  unfold tagsIn at h
  split at h
  · simp at h
  · rename_i s hslice
    obtain ⟨front, back, rfl, hfront, hstop⟩ := exists_of_slice?_eq_some hslice
    obtain ⟨before, u, after, rfl, hspan⟩ := exists_of_mem_tagsFrom (List.mem_of_mem_filter h)
    rw [hspan, ← hfront]
    refine ⟨by simp, ?_, front ++ before, u, after ++ back, by simp, by simp⟩
    rw [byteSize_append] at hstop
    dsimp only
    omega

/-- A position of a document: a character begins there, or the document ends. -/
def IsBoundary
    (doc : List Char)
    (position : Nat) : Prop :=
  ∃ u v, splitAt? position doc = some (u, v)

theorem Clean.isBoundary
    {doc : List Char}
    {position : Nat}
    (h : Clean doc position) :
    IsBoundary doc position := by
  obtain ⟨u, v, rfl, rfl, -⟩ := h
  exact ⟨u, v, splitAt?_append u v⟩

/-- The number of bytes of a range. -/
def width (r : Span) : Nat :=
  r.stop - r.start

/-- An element stands within a range of a document, and its content within it, with something around it.
It begins with a `<` and ends with a `>`. -/
structure Element.StandsIn
    (doc : List Char)
    (range : Span)
    (e : Element) : Prop where
  starts : range.start ≤ e.outer.start
  stops : e.outer.stop ≤ range.stop
  ordered : e.Ordered
  narrower : width e.inner < width e.outer
  boundaries : ∀ position ∈ [e.outer.start, e.inner.start, e.inner.stop, e.outer.stop],
    IsBoundary doc position
  marked : ∃ u, slice? doc e.outer = some ('<' :: (u ++ ['>']))

/-- From the `<` of a tag to the `>` of one that does not end before it. -/
theorem exists_slice?_between
    {doc : List Char}
    {range : Span}
    {t u : Tag}
    (ht : t ∈ tagsIn doc range)
    (hu : u ∈ tagsIn doc range)
    (hle : t.span.stop ≤ u.span.stop) :
    ∃ s, slice? doc ⟨t.span.start, u.span.stop⟩ = some ('<' :: (s ++ ['>'])) := by
  obtain ⟨-, -, before, s, after, hdoc, hspan⟩ := exists_of_mem_tagsIn ht
  obtain ⟨-, -, before', s', after', hdoc', hspan'⟩ := exists_of_mem_tagsIn hu
  rw [hspan, hspan'] at hle
  rw [hspan, hspan']
  have hfront : before ++ '<' :: (s ++ ['>']) <+: before' ++ '<' :: (s' ++ ['>']) :=
    prefix_of_byteSize_le ⟨after, hdoc.symm⟩ ⟨after', hdoc'.symm⟩ hle
  obtain ⟨rest, hrest⟩ := hfront
  have hbody : ∃ body, '<' :: (s ++ ['>']) ++ rest = '<' :: (body ++ ['>']) := by
    rcases List.eq_nil_or_concat rest with rfl | ⟨init, c, rfl⟩
    · exact ⟨s, List.append_nil _⟩
    · have hends : before ++ '<' :: (s ++ ['>']) ++ init ++ [c] = before' ++ '<' :: s' ++ ['>'] := by
        rw [List.concat_eq_append] at hrest
        simpa using hrest
      obtain rfl : c = '>' := List.singleton_inj.mp (List.append_inj' hends rfl).2
      exact ⟨s ++ '>' :: init, by simp⟩
  obtain ⟨body, hbody⟩ := hbody
  rw [List.append_assoc, hbody] at hrest
  have hstands : StandsAt doc (byteSize before) ('<' :: (body ++ ['>'])) :=
    ⟨before, after', by rw [hrest, hdoc'], rfl⟩
  have hslice := hstands.slice?_eq
  rw [← byteSize_append, hrest] at hslice
  exact ⟨body, hslice⟩

/-- Every element that is found in a range stands in it. -/
theorem standsIn_of_mem_elementsIn
    {doc : List Char}
    {range : Span}
    {e : Element}
    (h : e ∈ elementsIn doc range) :
    e.StandsIn doc range := by
  have hordered := ordered_of_mem_elementsIn h
  have hfits := fits_of_mem_elementsIn h
  have htags : ∃ t ∈ tagsIn doc range, ∃ u ∈ tagsIn doc range,
      e.outer = ⟨t.span.start, u.span.stop⟩ ∧ t.span.stop = e.inner.start := by
    rcases exists_tags_of_mem_elementsOf h with ⟨t, ht, rfl⟩ | ⟨t, ht, u, hu, rfl⟩
    · exact ⟨t, ht, t, ht, rfl, rfl⟩
    · rw [List.append_nil] at ht
      exact ⟨t, ht, u, hu, rfl, rfl⟩
  obtain ⟨t, ht, u, hu, houter, hopening⟩ := htags
  have hle : t.span.stop ≤ u.span.stop := by
    have hstop : e.outer.stop = u.span.stop := by rw [houter]
    rw [hopening, ← hstop]
    exact hordered.content.trans hordered.closes
  obtain ⟨hstart, -, before, s, after, -, hspan⟩ := exists_of_mem_tagsIn ht
  obtain ⟨-, hstop, -⟩ := exists_of_mem_tagsIn hu
  -- The opening tag alone has a byte at least.
  have hpos : t.span.start < t.span.stop := by
    rw [hspan, byteSize_append]
    exact Nat.lt_add_of_pos_right (byteSize_pos (List.cons_ne_nil _ _))
  constructor
  · rwa [houter]
  · rwa [houter]
  · exact hordered
  · have hstarts : e.outer.start = t.span.start := by rw [houter]
    have hcontent := hordered.content
    have hcloses := hordered.closes
    unfold width
    omega
  · simp only [List.forall_mem_cons]
    exact ⟨hfits.outer_start.isBoundary, hfits.inner_start.isBoundary, hfits.inner_stop.isBoundary,
      hfits.outer_stop.isBoundary, nofun⟩
  · rw [houter]
    exact exists_slice?_between ht hu hle

/-- Elements that follow one another do so without overlapping. An element is complete only when no tag
is open any more, so the next one is made of the tags behind it. -/
theorem pairwise_elementsOf
    {tags stack : List Tag}
    (htags : tags.Pairwise Tag.Before) :
    (elementsOf tags stack).Pairwise fun e f => e.outer.stop ≤ f.outer.start := by
  induction tags generalizing stack with
  | nil =>
      rw [elementsOf]
      exact .nil
  | cons t rest ih =>
      obtain ⟨hfirst, hrest⟩ := List.pairwise_cons.mp htags
      have hbehind (f : Element) (hf : f ∈ elementsOf rest []) : t.span.stop ≤ f.outer.start := by
        rcases exists_tags_of_mem_elementsOf hf with ⟨u, hu, rfl⟩ | ⟨u, hu, v, -, rfl⟩
        · exact hfirst u hu
        · rw [List.append_nil] at hu
          exact hfirst u hu
      simp only [elementsOf]
      split
      · split
        · rename_i hempty
          rw [List.isEmpty_iff.mp hempty]
          exact List.pairwise_cons.mpr ⟨hbehind, ih hrest⟩
        · exact ih hrest
      · split
        · exact ih hrest
        · split
          · exact .nil
          · split
            · split
              · rename_i hempty
                rw [List.isEmpty_iff.mp hempty]
                exact List.pairwise_cons.mpr ⟨hbehind, ih hrest⟩
              · exact ih hrest
            · exact .nil

/-- What is found in any range of any text stands in that range, one after the other. An element is
narrower than the one that it is found in, so going down from element to element comes to an end. -/
theorem elementsIn_standIn
    (doc : List Char) :
    (∀ range, (elementsIn doc range).Pairwise (fun e f => e.outer.stop ≤ f.outer.start) ∧
      ∀ e ∈ elementsIn doc range, e.StandsIn doc range) ∧
    (∀ e : Element, ∀ c ∈ e.children doc, width c.inner < width e.inner) ∧
    WellFounded fun c e : Element => c ∈ e.children doc := by
  have hnarrower : ∀ e : Element, ∀ c ∈ e.children doc, width c.inner < width e.inner := by
    intro e c hc
    have hstands := standsIn_of_mem_elementsIn hc
    have hstarts := hstands.starts
    have hstops := hstands.stops
    have hwithin : width c.outer ≤ width e.inner := by
      unfold width
      omega
    exact Nat.lt_of_lt_of_le hstands.narrower hwithin
  refine ⟨fun range => ⟨pairwise_elementsOf (ordered_tagsIn doc range).2,
    fun e he => standsIn_of_mem_elementsIn he⟩, hnarrower, ?_⟩
  exact Subrelation.wf (fun hc => hnarrower _ _ hc)
    (InvImage.wf (fun e : Element => width e.inner) Nat.lt_wfRel.wf)

end Markup
end Runbook
