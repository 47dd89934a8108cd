import Mathlib.Data.List.Basic
import Mathlib.Data.List.Nodup

/-!
# Walking the pages of a list

A page is asked for with the cursor that the page before it returned, and the last page returns
none. `page n c` is the answer of the call `n` with the cursor `c`: what is asked may change from
call to call.

* `walk_iff` : a walk lists exactly the rows of `l` if and only if each page goes on in `l` where the
  one before it ended.
* `walk_mapCursor_iff` : the walks do not depend on the form of the cursors.
* `filter_eq_drop` : cursors that filter by a transitive relation, and whose pages go on in `l`,
  filter exactly the rest of `l`.
* `exists_walk_places_iff` : pages that are cut out of `l` in memory list `l` if and only if the
  cursor of each leads behind its last row.
-/

namespace Infra

variable {R S C E : Type}

/-- The pages from the call `n` with the cursor `c` to the one that returns no cursor. -/
inductive Walk (page : Nat → Option C → Except E (List R × Option C)) :
    Nat → Option C → List (List R) → Prop
  | last {n : Nat} {c : Option C} {data : List R} (h : page n c = .ok (data, none)) :
    Walk page n c [data]
  | more {n : Nat} {c : Option C} {data : List R} {c' : C} {pages : List (List R)}
    (h : page n c = .ok (data, some c')) (rest : Walk page (n + 1) (some c') pages) :
    Walk page n c (data :: pages)

/-- The pages of so many calls at most. -/
def walkPages (page : Nat → Option C → Except E (List R × Option C)) :
    Nat → Nat → Option C → Option (List (List R))
  | 0, _, _ => none
  | fuel + 1, n, c =>
    match page n c with
    | .error _ => none
    | .ok (data, none) => some [data]
    | .ok (data, some c') => (walkPages page fuel (n + 1) (some c')).map (data :: ·)

section

variable {page : Nat → Option C → Except E (List R × Option C)} {n : Nat} {c : Option C}
  {pages pages' : List (List R)}

theorem Walk.unique (h : Walk page n c pages) (h' : Walk page n c pages') : pages = pages' := by
  induction h generalizing pages' with
  | last h =>
    cases h' with
    | last h' =>
      rw [h] at h'
      cases h'
      rfl
    | more h' rest' =>
      rw [h] at h'
      cases h'
  | more h rest ih =>
    cases h' with
    | last h' =>
      rw [h] at h'
      cases h'
    | more h' rest' =>
      rw [h] at h'
      cases h'
      rw [ih rest']

theorem walk_of_walkPages {fuel : Nat} (h : walkPages page fuel n c = some pages) :
    Walk page n c pages := by
  induction fuel generalizing n c pages with
  | zero => cases h
  | succ fuel ih =>
    rw [walkPages] at h
    split at h
    · cases h
    · next hpage =>
      cases h
      exact .last hpage
    · next hpage =>
      obtain ⟨rest, hrest, rfl⟩ := Option.map_eq_some_iff.mp h
      exact .more hpage (ih hrest)

/-- The rows of a page in another form. -/
def mapPage (f : R → S) : List R × Option C → List S × Option C
  | (data, c) => (data.map f, c)

theorem Walk.map (f : R → S) (h : Walk page n c pages) :
    Walk (fun n c => (page n c).map (mapPage f)) n c (pages.map (List.map f)) := by
  induction h with
  | last h => exact .last (by rw [h]; rfl)
  | more h _ ih => exact .more (by rw [h]; rfl) ih

theorem Walk.of_map {f : R → S} {pages' : List (List S)}
    (h : Walk (fun n c => (page n c).map (mapPage f)) n c pages') :
    ∃ pages, Walk page n c pages ∧ pages' = pages.map (List.map f) := by
  induction h with
  | @last n c data h =>
    rcases hpage : page n c with e | ⟨data₀, c₀⟩
    · rw [hpage] at h
      cases h
    · rw [hpage] at h
      cases h
      exact ⟨[data₀], .last hpage, rfl⟩
  | @more n c data c' pages h _ ih =>
    obtain ⟨rest, hrest, rfl⟩ := ih
    rcases hpage : page n c with e | ⟨data₀, c₀⟩
    · rw [hpage] at h
      cases h
    · rw [hpage] at h
      cases h
      exact ⟨data₀ :: rest, .more hpage hrest, rfl⟩

/-- The pages of a walk in another form are those of the walk. -/
theorem exists_walk_map_iff {f : R → S} {P : List S → Prop} :
    (∃ pages, Walk (fun n c => (page n c).map (mapPage f)) n c pages ∧ P pages.flatten) ↔
      ∃ pages, Walk page n c pages ∧ P (pages.flatten.map f) := by
  constructor
  · rintro ⟨pages', hwalk, hP⟩
    obtain ⟨pages, hpages, rfl⟩ := hwalk.of_map
    refine ⟨pages, hpages, ?_⟩
    rw [List.map_flatten]
    exact hP
  · rintro ⟨pages, hwalk, hP⟩
    refine ⟨_, hwalk.map f, ?_⟩
    rw [← List.map_flatten]
    exact hP

end

/-- **Cursors in another form** : if the pages are the same and end with the same cursors in that form,
so are the walks. -/
theorem walk_mapCursor_iff {C' : Type} {page : Nat → Option C → Except E (List R × Option C)}
    {page' : Nat → Option C' → Except E (List R × Option C')} {f : C → C'} {Known : C → Prop}
    (hsame : ∀ n c, (∀ c' ∈ c, Known c') →
      page' n (c.map f) = (page n c).map fun x => (x.1, x.2.map f))
    (hknown : ∀ n c data c', page n c = .ok (data, some c') → Known c') {n : Nat} {c : Option C}
    {pages : List (List R)} (hc : ∀ c' ∈ c, Known c') :
    Walk page' n (c.map f) pages ↔ Walk page n c pages := by
  constructor
  · intro h
    -- every cursor on the way has this form
    generalize hform : c.map f = d at h
    induction h generalizing c with
    | @last n d data h =>
      rw [← hform, hsame n c hc] at h
      rcases hpage : page n c with e | ⟨data₀, c₀⟩
      · rw [hpage] at h
        cases h
      · rw [hpage] at h
        obtain ⟨rfl, hnone⟩ := Prod.mk.inj (Except.ok.inj h)
        obtain rfl := Option.map_eq_none_iff.mp hnone
        exact .last hpage
    | @more n d data d' pages h _ ih =>
      rw [← hform, hsame n c hc] at h
      rcases hpage : page n c with e | ⟨data₀, c₀⟩
      · rw [hpage] at h
        cases h
      · rw [hpage] at h
        obtain ⟨rfl, hsome⟩ := Prod.mk.inj (Except.ok.inj h)
        obtain ⟨c', rfl, rfl⟩ := Option.map_eq_some_iff.mp hsome
        refine .more hpage (ih (c := some c') ?_ rfl)
        rintro _ ⟨⟩
        exact hknown n c _ c' hpage
  · intro h
    induction h with
    | @last n c data h =>
      refine .last ?_
      rw [hsame n c hc, h]
      rfl
    | @more n c data c' pages h _ ih =>
      have hnext := ih (by
        rintro _ ⟨⟩
        exact hknown n c _ c' h)
      refine .more ?_ hnext
      rw [hsame n c hc, h]
      rfl

/-! ## Pages that end with the cursor of their last row -/

/-- The first rows, and if there are so many the cursor of the last of them. -/
def cut (limit : Nat) (enc : R → C) (l : List R) : List R × Option C :=
  (l.take limit,
    if (l.take limit).length = limit then (l.take limit).getLast?.map enc else none)

/-- Each page goes on in `l` where the one before it ended. -/
def PageEnds (page : Option C → Except E (List R × Option C)) (enc : R → C) (limit : Nat)
    (l : List R) : Prop :=
  ∀ k r, l[(k + 1) * limit - 1]? = some r →
    page (some (enc r)) = .ok (cut limit enc (l.drop ((k + 1) * limit)))

section

variable {page : Option C → Except E (List R × Option C)} {enc : R → C} {limit : Nat}
  {l : List R} {c : Option C} {n : Nat}

theorem cut_of_lt (h : l.length < limit) : cut limit enc l = (l, none) := by
  have htake : l.take limit = l := List.take_of_length_le (Nat.le_of_lt h)
  have hne : l.length ≠ limit := by omega
  unfold cut
  rw [htake, if_neg hne]

theorem cut_of_le (enc : R → C) (hlimit : 0 < limit) (h : limit ≤ l.length) :
    ∃ r, l[limit - 1]? = some r ∧ cut limit enc l = (l.take limit, some (enc r)) := by
  have hlen : (l.take limit).length = limit := by
    rw [List.length_take]
    omega
  have hlast : limit - 1 < l.length := by omega
  refine ⟨l[limit - 1], List.getElem?_eq_getElem hlast, ?_⟩
  unfold cut
  rw [if_pos hlen, List.getLast?_eq_getElem?, hlen, List.getElem?_take_of_lt (by omega),
    List.getElem?_eq_getElem hlast]
  rfl

/-- A page without a next cursor is not full. -/
theorem length_lt_of_cut {data : List R} (hlimit : 0 < limit)
    (h : (data, none) = cut limit enc data) : data.length < limit := by
  by_contra hlong
  obtain ⟨r, -, hr⟩ := cut_of_le enc hlimit (Nat.le_of_not_lt hlong)
  rw [hr] at h
  cases (Prod.mk.inj h).2

/-- A page with a next cursor is full, and the cursor is that of its last row. -/
theorem length_eq_of_cut {data : List R} {c' : C} (hlimit : 0 < limit)
    (h : (data, some c') = cut limit enc data) :
    data.length = limit ∧ data.getLast?.map enc = some c' := by
  by_cases hlong : limit ≤ data.length
  · obtain ⟨r, hr, he⟩ := cut_of_le enc hlimit hlong
    rw [he] at h
    obtain ⟨hdata, hc⟩ := Prod.mk.inj h
    have hlen : data.length = limit := by
      rw [hdata, List.length_take]
      omega
    refine ⟨hlen, ?_⟩
    rw [List.getLast?_eq_getElem?, hlen, hr]
    exact hc.symm
  · rw [cut_of_lt (Nat.lt_of_not_le hlong)] at h
    cases (Prod.mk.inj h).2

theorem PageEnds.drop (hlimit : 0 < limit) (h : PageEnds page enc limit l) :
    PageEnds page enc limit (l.drop limit) := by
  intro k r hr
  rw [List.getElem?_drop] at hr
  have hplace : limit + ((k + 1) * limit - 1) = (k + 1 + 1) * limit - 1 := by
    have hpos : 0 < (k + 1) * limit := Nat.mul_pos (Nat.succ_pos k) hlimit
    rw [Nat.add_mul (k + 1) 1 limit]
    omega
  rw [hplace] at hr
  rw [h (k + 1) r hr, List.drop_drop, Nat.add_mul (k + 1) 1 limit, Nat.one_mul,
    Nat.add_comm limit]

/-- Pages that go on in `l` list `l`. -/
theorem exists_walk (hlimit : 0 < limit) (hends : PageEnds page enc limit l)
    (h : page c = .ok (cut limit enc l)) (n : Nat) :
    ∃ pages, Walk (fun _ => page) n c pages ∧ pages.flatten = l := by
  induction hlen : l.length using Nat.strongRecOn generalizing l c n with
  | _ len ih =>
    subst hlen
    by_cases hshort : l.length < limit
    · rw [cut_of_lt hshort] at h
      exact ⟨[l], .last h, by simp⟩
    · obtain ⟨r, hr, hcut⟩ := cut_of_le enc hlimit (Nat.le_of_not_lt hshort)
      rw [hcut] at h
      have hnext := hends 0 r (by simpa using hr)
      simp only [Nat.zero_add, Nat.one_mul] at hnext
      have hless : (l.drop limit).length < l.length := by
        rw [List.length_drop]
        omega
      obtain ⟨pages, hwalk, hflat⟩ := ih _ hless (hends.drop hlimit) hnext (n + 1) rfl
      refine ⟨l.take limit :: pages, .more h hwalk, ?_⟩
      rw [List.flatten_cons, hflat, List.take_append_drop]

/-- Pages that list `l` go on in `l`. -/
theorem pageEnds_of_walk (hlimit : 0 < limit)
    (hpage : ∀ c x, page c = .ok x → x = cut limit enc x.1) {pages : List (List R)}
    (h : Walk (fun _ => page) n c pages) :
    page c = .ok (cut limit enc pages.flatten) ∧ PageEnds page enc limit pages.flatten := by
  induction h with
  | @last n c data h =>
    have hcut := hpage c _ h
    have hshort : data.length < limit := length_lt_of_cut hlimit hcut
    rw [List.flatten_singleton]
    refine ⟨h.trans (congrArg Except.ok hcut), fun k r hr => ?_⟩
    have hplace : (k + 1) * limit - 1 < data.length := (List.getElem?_eq_some_iff.mp hr).1
    have hbig : limit ≤ (k + 1) * limit := Nat.le_mul_of_pos_left limit (Nat.succ_pos k)
    omega
  | @more n c data c' pages h rest ih =>
    obtain ⟨hfirst, hends⟩ := ih
    obtain ⟨hlen, hlast⟩ := length_eq_of_cut hlimit (hpage c _ h)
    have htake : (data ++ pages.flatten).take limit = data := by
      rw [← hlen, List.take_left]
    have hdrop : (data ++ pages.flatten).drop limit = pages.flatten := by
      rw [← hlen, List.drop_left]
    rw [List.flatten_cons]
    refine ⟨?_, fun k r hr => ?_⟩
    · rw [h]
      unfold cut
      rw [htake, if_pos hlen, hlast]
    · cases k with
      | zero =>
        rw [Nat.zero_add, Nat.one_mul] at hr ⊢
        have hr' : data[limit - 1]? = some r := by
          rw [← hr, List.getElem?_append_left (by omega)]
        rw [List.getLast?_eq_getElem?, hlen, hr'] at hlast
        rw [hdrop, ← hfirst]
        exact congrArg page hlast
      | succ k =>
        have hpos : 0 < (k + 1) * limit := Nat.mul_pos (Nat.succ_pos k) hlimit
        rw [Nat.add_mul (k + 1) 1 limit, Nat.one_mul] at hr ⊢
        rw [List.getElem?_append_right (by omega)] at hr
        have hplace : (k + 1) * limit + limit - 1 - data.length = (k + 1) * limit - 1 := by omega
        rw [hplace] at hr
        rw [hends k r hr, Nat.add_comm ((k + 1) * limit), ← List.drop_drop, hdrop]

/-- **A walk lists exactly `l`** if and only if its first page is the first of `l`, and each page
goes on in `l` where the one before it ended. -/
theorem walk_iff (hlimit : 0 < limit) (hpage : ∀ c x, page c = .ok x → x = cut limit enc x.1) :
    (∃ pages, Walk (fun _ => page) n c pages ∧ pages.flatten = l) ↔
      page c = .ok (cut limit enc l) ∧ PageEnds page enc limit l := by
  constructor
  · rintro ⟨pages, hwalk, rfl⟩
    exact pageEnds_of_walk hlimit hpage hwalk
  · rintro ⟨hfirst, hends⟩
    exact exists_walk hlimit hends hfirst n

/-- A walk goes on from the cursor of its first page. -/
theorem exists_walk_next {c' : C} {data : List R} (h : page c = .ok (data, some c'))
    (hwalk : ∃ pages, Walk (fun _ => page) n c pages) :
    ∃ pages, Walk (fun _ => page) (n + 1) (some c') pages := by
  obtain ⟨pages, hwalk⟩ := hwalk
  cases hwalk with
  | last hlast =>
    rw [h] at hlast
    cases hlast
  | more hmore rest =>
    rw [h] at hmore
    cases hmore
    exact ⟨_, rest⟩

/-- A page that returns the cursor that it was asked with is the last of no walk. -/
theorem not_walk_of_loop {c' : C} {data data' : List R} (h : page c = .ok (data, some c'))
    (hloop : page (some c') = .ok (data', some c')) :
    ¬ ∃ pages, Walk (fun _ => page) n c pages := by
  have hstuck : ∀ {n : Nat} {c : Option C} {pages : List (List R)},
      Walk (fun _ => page) n c pages → c ≠ some c' := by
    intro n c pages hwalk
    induction hwalk with
    | last hlast =>
      rintro rfl
      rw [hloop] at hlast
      cases hlast
    | more hmore _ ih =>
      rintro rfl
      rw [hloop] at hmore
      cases hmore
      exact ih rfl
  intro hwalk
  obtain ⟨pages, hnext⟩ := exists_walk_next h hwalk
  exact hstuck hnext rfl

/-- An error ends no walk. -/
theorem not_walk_of_error {c' : C} {data : List R} {e : E} (h : page c = .ok (data, some c'))
    (herror : page (some c') = .error e) : ¬ ∃ pages, Walk (fun _ => page) n c pages := by
  intro hwalk
  obtain ⟨pages, hnext⟩ := exists_walk_next h hwalk
  cases hnext with
  | last hlast =>
    rw [herror] at hlast
    cases hlast
  | more hmore _ =>
    rw [herror] at hmore
    cases hmore

end

/-! ## Cursors that filter -/

/-- If a filter lets all rows behind a place through, and what it lets through starts like these, it
lets nothing before the place through. -/
theorem filter_eq_drop_of_all {q : R → Bool} {limit m : Nat} {l : List R} (hlimit : 0 < limit)
    (hnodup : l.Nodup) (hall : ∀ x ∈ l.drop m, q x = true)
    (hpage : (l.filter q).take limit = (l.drop m).take limit) : l.filter q = l.drop m := by
  have hrest : (l.drop m).filter q = l.drop m := List.filter_eq_self.mpr hall
  have hsplit : l.filter q = (l.take m).filter q ++ l.drop m := by
    calc l.filter q = (l.take m).filter q ++ (l.drop m).filter q := by
          rw [← List.filter_append, List.take_append_drop]
      _ = (l.take m).filter q ++ l.drop m := by rw [hrest]
  -- what comes before the place would stand first
  cases hbefore : (l.take m).filter q with
  | nil => rw [hsplit, hbefore, List.nil_append]
  | cons x xs =>
    have hx : x ∈ l.take m := by
      have hmem : x ∈ (l.take m).filter q := by
        rw [hbefore]
        exact List.mem_cons_self
      exact List.mem_of_mem_filter hmem
    have hx' : x ∈ l.drop m := by
      refine List.mem_of_mem_take (i := limit) ?_
      rw [← hpage, hsplit, hbefore]
      obtain ⟨n, rfl⟩ : ∃ n, limit = n + 1 := ⟨limit - 1, by omega⟩
      exact List.mem_cons_self
    rw [← List.take_append_drop m l, List.nodup_append] at hnodup
    exact absurd rfl (hnodup.2.2 x hx x hx')

/-- **The rows that a cursor lets through are the rest**, if the relation is transitive and each page
goes on where the one before it ended. -/
theorem filter_eq_drop {after : R → R → Bool} {limit : Nat} {l : List R} (hlimit : 0 < limit)
    (hnodup : l.Nodup)
    (htrans : ∀ a b c, after a b = true → after b c = true → after a c = true)
    (h : ∀ k r, l[(k + 1) * limit - 1]? = some r →
      (l.filter (after r)).take limit = (l.drop ((k + 1) * limit)).take limit) :
    ∀ k r, l[(k + 1) * limit - 1]? = some r → l.filter (after r) = l.drop ((k + 1) * limit) := by
  intro k
  -- from the last page to the first
  induction hrest : l.length - (k + 1) * limit using Nat.strongRecOn generalizing k with
  | _ rest ih =>
    subst hrest
    intro r hr
    have hpage := h k r hr
    by_cases hshort : (l.drop ((k + 1) * limit)).length < limit
    · rw [List.take_of_length_le (Nat.le_of_lt hshort)] at hpage
      rw [← hpage]
      refine (List.take_of_length_le ?_).symm
      rw [← hpage, List.length_take] at hshort
      omega
    · have hlen : (k + 1) * limit + limit ≤ l.length := by
        rw [List.length_drop] at hshort
        omega
      have hstep : (k + 1 + 1) * limit = (k + 1) * limit + limit := by
        rw [Nat.add_mul (k + 1) 1 limit, Nat.one_mul]
      obtain ⟨r', hr'⟩ : ∃ r', l[(k + 1 + 1) * limit - 1]? = some r' :=
        ⟨_, List.getElem?_eq_getElem (by omega)⟩
      have hnext : l.filter (after r') = l.drop ((k + 1 + 1) * limit) :=
        ih _ (by omega) (k + 1) rfl r' hr'
      -- the last row of the next page is let through
      have hmem : r' ∈ (l.drop ((k + 1) * limit)).take limit := by
        refine List.mem_of_getElem? (i := limit - 1) ?_
        rw [List.getElem?_take_of_lt (by omega), List.getElem?_drop]
        have hplace : (k + 1) * limit + (limit - 1) = (k + 1 + 1) * limit - 1 := by omega
        rw [hplace]
        exact hr'
      rw [← hpage] at hmem
      have hafter : after r r' = true := (List.mem_filter.mp (List.mem_of_mem_take hmem)).2
      have hall : ∀ x ∈ l.drop ((k + 1) * limit), after r x = true := by
        intro x hx
        rw [← List.take_append_drop limit (l.drop ((k + 1) * limit)), List.mem_append] at hx
        rcases hx with hx | hx
        · rw [← hpage] at hx
          exact (List.mem_filter.mp (List.mem_of_mem_take hx)).2
        · rw [List.drop_drop, ← hstep, ← hnext] at hx
          exact htrans r r' x hafter (List.mem_filter.mp hx).2
      exact filter_eq_drop_of_all hlimit hnodup hall hpage

/-! ## Pages that are cut out of rows in memory -/

/-- A row is found by its key. -/
theorem findIdx?_key {K : Type} [DecidableEq K] {key : R → K} {l : List R} {i : Nat} {r : R}
    (hkeys : (l.map key).Nodup) (hr : l[i]? = some r) :
    l.findIdx? (fun x => key x == key r) = some i := by
  obtain ⟨hi, rfl⟩ := List.getElem?_eq_some_iff.mp hr
  refine List.findIdx?_eq_some_iff_getElem.mpr ⟨hi, by simp, fun j hj he => ?_⟩
  have hsame : key l[j] = key l[i] := by simpa using he
  have hplaces : (l.map key)[i]? = (l.map key)[j]? := by
    simp [List.getElem?_eq_getElem hi, List.getElem?_eq_getElem (Nat.lt_trans hj hi), hsame]
  have hij : i = j := (List.getElem?_inj (by simpa using hi) hkeys).mp hplaces
  omega

/-- The rows from a place on, and if there are more of them the cursor of the last one. -/
def pageFrom (e : E) (enc : R → C) (limit : Nat) (l : List R) (start : Nat) :
    Except E (List R × Option C) :=
  let data := (l.drop start).take limit
  if start + limit < l.length then
    match data.getLast? with
    | some r => .ok (data, some (enc r))
    | none => .error e
  else .ok (data, none)

section

variable {page : Option C → Except E (List R × Option C)} {e : E} {enc : R → C} {limit m n : Nat}
  {l : List R} {c : Option C} {pages : List (List R)} {place : Option C → Nat}

theorem pageFrom_more (e : E) (enc : R → C) (hlimit : 0 < limit) (hmore : m + limit < l.length) :
    ∃ r, l[m + limit - 1]? = some r ∧
      pageFrom e enc limit l m = .ok ((l.drop m).take limit, some (enc r)) := by
  have hplace : m + limit - 1 < l.length := by omega
  have hlen : ((l.drop m).take limit).length = limit := by
    rw [List.length_take, List.length_drop]
    omega
  have hlast : ((l.drop m).take limit).getLast? = some l[m + limit - 1] := by
    rw [List.getLast?_eq_getElem?, hlen, List.getElem?_take_of_lt (by omega), List.getElem?_drop,
      ← List.getElem?_eq_getElem hplace]
    congr 1
    omega
  refine ⟨_, List.getElem?_eq_getElem hplace, ?_⟩
  unfold pageFrom
  dsimp only
  rw [if_pos hmore, hlast]

theorem pageFrom_last (e : E) (enc : R → C) (hlast : l.length ≤ m + limit) :
    pageFrom e enc limit l m = .ok (l.drop m, none) := by
  have htake : (l.drop m).take limit = l.drop m :=
    List.take_of_length_le (by rw [List.length_drop]; omega)
  unfold pageFrom
  dsimp only
  rw [if_neg (by omega), htake]

/-- The cursor of each page but the last leads behind its last row. -/
def LeadsBehind (place : Option C → Nat) (enc : R → C) (limit : Nat) (l : List R) : Prop :=
  ∀ k r, l[(k + 1) * limit - 1]? = some r → (k + 1) * limit < l.length →
    place (some (enc r)) = (k + 1) * limit

theorem exists_walk_of_leadsBehind (hlimit : 0 < limit)
    (hpage : ∀ c, page c = pageFrom e enc limit l (place c))
    (hleads : LeadsBehind place enc limit l) (k : Nat) (hplace : place c = k * limit) (n : Nat) :
    ∃ pages, Walk (fun _ => page) n c pages ∧ (∀ data ∈ pages.dropLast, data.length = limit) ∧
      pages.flatten = l.drop (k * limit) := by
  induction hrest : l.length - k * limit using Nat.strongRecOn generalizing k c n with
  | _ rest ih =>
    subst hrest
    have hthis := hpage c
    rw [hplace] at hthis
    have hnext : (k + 1) * limit = k * limit + limit := by rw [Nat.add_mul, Nat.one_mul]
    by_cases hmore : k * limit + limit < l.length
    · obtain ⟨r, hr, heq⟩ := pageFrom_more e enc hlimit hmore
      rw [heq] at hthis
      have hbehind : place (some (enc r)) = (k + 1) * limit := by
        refine hleads k r ?_ (by omega)
        rw [hnext]
        exact hr
      obtain ⟨pages, hwalk, hfull, hflat⟩ := ih _ (by omega) (k + 1) hbehind (n + 1) rfl
      refine ⟨(l.drop (k * limit)).take limit :: pages, .more hthis hwalk, ?_, ?_⟩
      · -- the page is full, as there are more rows
        have hne : pages ≠ [] := by
          rintro rfl
          cases hwalk
        rw [List.dropLast_cons_of_ne_nil hne]
        intro data hdata
        rcases List.mem_cons.mp hdata with rfl | hdata
        · rw [List.length_take, List.length_drop]
          omega
        · exact hfull data hdata
      · rw [List.flatten_cons, hflat, hnext, ← List.drop_drop, List.take_append_drop]
    · rw [pageFrom_last e enc (Nat.le_of_not_lt hmore)] at hthis
      refine ⟨[l.drop (k * limit)], .last hthis, ?_, by simp⟩
      intro data hdata
      cases hdata

/-- A cursor that leads back to the first row, and not behind its page, comes up again and again. -/
theorem not_walk_of_restart (hlimit : 0 < limit)
    (hpage : ∀ c, page c = pageFrom e enc limit l (place c))
    (hplaces : ∀ i r, l[i]? = some r → place (some (enc r)) = i + 1 ∨ place (some (enc r)) = 0)
    {k : Nat} {r : R} (hr : l[(k + 1) * limit - 1]? = some r) (hk : (k + 1) * limit < l.length)
    (hback : place (some (enc r)) = 0) (hwalk : Walk (fun _ => page) n c pages) :
    ∀ j ≤ k, place c ≠ j * limit := by
  induction hwalk with
  | @last n c data hlast =>
    intro j hj hplace
    have hless : (j + 1) * limit ≤ (k + 1) * limit := Nat.mul_le_mul_right limit (by omega)
    have hmore : j * limit + limit < l.length := by
      rw [Nat.add_mul, Nat.one_mul] at hless
      omega
    obtain ⟨r', -, heq⟩ := pageFrom_more e enc hlimit hmore
    rw [hpage c, hplace, heq] at hlast
    cases hlast
  | @more n c data c' pages hpage' _ ih =>
    intro j hj hplace
    have hless : (j + 1) * limit ≤ (k + 1) * limit := Nat.mul_le_mul_right limit (by omega)
    have hnext : (j + 1) * limit = j * limit + limit := by rw [Nat.add_mul, Nat.one_mul]
    have hmore : j * limit + limit < l.length := by omega
    obtain ⟨r', hr', heq⟩ := pageFrom_more e enc hlimit hmore
    rw [hpage c, hplace, heq] at hpage'
    cases hpage'
    -- the next page is the one behind, or the first one again
    rcases hplaces _ r' hr' with hbehind | hfirst
    · have hjk : j ≠ k := by
        rintro rfl
        rw [hnext] at hr
        rw [hr] at hr'
        cases hr'
        omega
      refine ih (j + 1) (by omega) ?_
      rw [hbehind]
      omega
    · refine ih 0 (Nat.zero_le k) ?_
      rw [hfirst, Nat.zero_mul]

/-- **The pages list `l`**, all but the last full, if and only if the cursor of each page but the last
leads behind its last row. -/
theorem exists_walk_places_iff (place : Option C → Nat) (hlimit : 0 < limit)
    (hpage : ∀ c, page c = pageFrom e enc limit l (place c)) (hnone : place none = 0)
    (hplaces : ∀ i r, l[i]? = some r →
      place (some (enc r)) = i + 1 ∨ place (some (enc r)) = 0) :
    (∃ pages, Walk (fun _ => page) n none pages ∧ (∀ data ∈ pages.dropLast, data.length = limit) ∧
        pages.flatten = l) ↔ LeadsBehind place enc limit l := by
  constructor
  · rintro ⟨pages, hwalk, -, -⟩ k r hr hk
    have hpos : 0 < (k + 1) * limit := Nat.mul_pos (Nat.succ_pos k) hlimit
    rcases hplaces _ r hr with hbehind | hback
    · omega
    · refine absurd ?_ (not_walk_of_restart hlimit hpage hplaces hr hk hback hwalk 0 (by omega))
      rw [hnone, Nat.zero_mul]
  · intro hleads
    obtain ⟨pages, hwalk, hfull, hflat⟩ := exists_walk_of_leadsBehind hlimit hpage hleads 0
      (c := none) (by rw [hnone, Nat.zero_mul]) n
    rw [Nat.zero_mul, List.drop_zero] at hflat
    exact ⟨pages, hwalk, hfull, hflat⟩

end

end Infra
