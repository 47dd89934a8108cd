import LedgerLight.Frontend.CursorPagination
import Mathlib.Algebra.Ring.Nat

/-!
# The list shows the page that it is on

Only the fetch of the filter effect is dropped when the filter changes. The other fetches were started
from a render that may be gone when they are answered, and what they do to the cells is right only if
the same call would start the same fetch now, or if the filter effect is about to replace it.

* `settled_run` : if every answer comes in time, the cells are those of a page of the filter, or its
  first page is being fetched.
* `shows_run` : then the list shows its page whenever no fetch is in flight.
-/

namespace LedgerLight.Frontend

open Infra

section

variable {T P : Type} {partText : P → String}
  {pages : Option (FilterKey P) → Option String → PaginatedResult T} {s : Pagination T P}
  {fetch : Fetch P} {filter : Option (FilterKey P)} {a : PageAction P}

/-! ## The page of the list -/

/-- The cursors of the pages of a filter: none for the first, for the others the next cursor of the
page before. -/
def cursorOf (pages : Option (FilterKey P) → Option String → PaginatedResult T)
    (filter : Option (FilterKey P)) : Nat → Option (Option String)
  | 0 => some none
  | n + 1 => (cursorOf pages filter n).bind fun cursor =>
    (nonempty? (pages filter cursor).nextCursor).map some

/-- The cells are those of a page of the filter, and the stack has the cursors up to it. -/
structure OnPage (pages : Option (FilterKey P) → Option String → PaginatedResult T)
    (s : Pagination T P) : Prop where
  nonempty : s.cursorStack ≠ []
  cursors : ∀ i cursor, s.cursorStack[i]? = some cursor → cursorOf pages s.filter i = some cursor
  data : s.data = (pages s.filter s.currentCursor).data
  total : s.total = (pages s.filter s.currentCursor).totalCount
  nextCursor : s.nextCursor = (pages s.filter s.currentCursor).nextCursor

/-- How many rows the pages before this one have. -/
def rowsBefore (pages : Option (FilterKey P) → Option String → PaginatedResult T)
    (s : Pagination T P) : Nat :=
  (s.cursorStack.dropLast.map fun cursor => (pages s.filter cursor).data.length).sum

/-- The list shows the page of its number, and the range of the rows on it if the pages before are
full. -/
structure Shows (pages : Option (FilterKey P) → Option String → PaginatedResult T) (limit : Nat)
    (s : Pagination T P) : Prop extends OnPage pages s where
  page : cursorOf pages s.filter (s.page - 1) = some s.currentCursor
  showing : (∀ cursor ∈ s.cursorStack.dropLast, (pages s.filter cursor).data.length = limit) →
    s.showingFrom limit = (if s.total = 0 then 0 else (rowsBefore pages s + 1 : Int)) ∧
      s.showingTo limit = rowsBefore pages s + s.data.length

/-- The page is that of its number. -/
theorem OnPage.page (h : OnPage pages s) :
    cursorOf pages s.filter (s.page - 1) = some s.currentCursor := by
  refine h.cursors _ _ ?_
  unfold Pagination.page Pagination.currentCursor
  rw [← List.getLast?_eq_getElem?, List.getLast?_eq_some_getLast h.nonempty]
  rfl

/-- On a page, its number and the range of its rows are right. -/
theorem OnPage.shows (h : OnPage pages s) (limit : Nat) : Shows pages limit s := by
  have hpos : 0 < s.cursorStack.length := List.length_pos_of_ne_nil h.nonempty
  have hpage : (s.page : Int) - 1 = ((s.cursorStack.length - 1 : Nat) : Int) := by
    unfold Pagination.page
    omega
  refine ⟨h, h.page, fun hfull => ?_⟩
  have hrows : rowsBefore pages s = (s.cursorStack.length - 1) * limit := by
    unfold rowsBefore
    rw [List.map_congr_left hfull, List.map_const', List.sum_replicate_nat, List.length_dropLast]
  unfold Pagination.showingFrom Pagination.showingTo
  rw [hpage, hrows]
  push_cast
  exact ⟨rfl, rfl⟩

/-! ## Answers in time -/

/-- The call that awaits the fetch would start the same fetch now. -/
def Repeats (s : Pagination T P) (cursor : Option String) : Awaiting → Prop
  | .filterEffect => True
  | .goNext nextCursor => s.nextCursor = some nextCursor
  | .goPrevious => s.hasPrevious = true ∧ cursor = s.prevCursor
  | .refresh => cursor = s.currentCursor

/-- An answer comes in time: to the filter effect, while that fetches, or when the call would still
start the fetch. -/
def InTime (s : Pagination T P) (fetch : Fetch P) : Prop :=
  fetch.awaiting = .filterEffect ∨ s.effect.isSome = true ∨
    fetch.filter = s.filter ∧ Repeats s fetch.cursor fetch.awaiting

/-- Filters have keys of their own, and answers come in time. -/
def StepOk (partText : P → String) (s : Pagination T P) : PageAction P → Prop
  | .changeFilter filter => filter = s.filter ∨
      Pagination.fk partText filter ≠ Pagination.fk partText s.filter
  | .answer id => ∀ fetch, (s.fetches.find? fun fetch => fetch.id == id) = some fetch → InTime s fetch
  | _ => True

instance decidableRepeats (s : Pagination T P) (cursor : Option String) :
    (awaiting : Awaiting) → Decidable (Repeats s cursor awaiting)
  | .filterEffect => .isTrue trivial
  | .goNext nextCursor => inferInstanceAs (Decidable (s.nextCursor = some nextCursor))
  | .goPrevious => inferInstanceAs (Decidable (s.hasPrevious = true ∧ cursor = s.prevCursor))
  | .refresh => inferInstanceAs (Decidable (cursor = s.currentCursor))

instance decidableInTime [DecidableEq P] (s : Pagination T P) (fetch : Fetch P) :
    Decidable (InTime s fetch) := by
  unfold InTime
  infer_instance

instance decidableStepOk [DecidableEq P] (partText : P → String) (s : Pagination T P) :
    (a : PageAction P) → Decidable (StepOk partText s a)
  | .goNext => .isTrue trivial
  | .goPrevious => .isTrue trivial
  | .refresh => .isTrue trivial
  | .changeFilter filter => inferInstanceAs (Decidable (filter = s.filter ∨
      Pagination.fk partText filter ≠ Pagination.fk partText s.filter))
  | .answer id => inferInstanceAs (Decidable
      (∀ fetch ∈ s.fetches.find? fun fetch : Fetch P => fetch.id == id, InTime s fetch))

/-! ## What the steps keep -/

/-- The effect fetches the first page of the filter. -/
structure Refetches (s : Pagination T P) (id : Nat) : Prop where
  effect : s.effect = some id
  inFlight : ∃ fetch ∈ s.fetches, fetch.id = id
  fetch : ∀ fetch ∈ s.fetches, fetch.id = id →
    fetch.awaiting = .filterEffect ∧ fetch.filter = s.filter ∧ fetch.cursor = none

/-- The cells are those of a page of the filter, or its first page is being fetched. -/
structure Settled (partText : P → String)
    (pages : Option (FilterKey P) → Option String → PaginatedResult T) (s : Pagination T P) :
    Prop where
  key : s.prevFilterKey = Pagination.fk partText s.filter
  fresh : ∀ fetch ∈ s.fetches, fetch.id < s.started
  next : ∀ fetch ∈ s.fetches, ∀ nextCursor, fetch.awaiting = .goNext nextCursor →
    nextCursor ≠ "" ∧ fetch.cursor = some nextCursor
  shown : (∃ id, Refetches s id) ∨ s.effect = none ∧ OnPage pages s

theorem mem_startFetch {awaiting : Awaiting} {cursor : Option String} {x : Fetch P} :
    x ∈ (s.startFetch awaiting cursor).fetches ↔ x ∈ s.fetches ∨
      x = { id := s.started, awaiting := awaiting, filter := s.filter, cursor := cursor } := by
  unfold Pagination.startFetch
  rw [List.mem_append, List.mem_singleton]

theorem forall_startFetch {awaiting : Awaiting} {cursor : Option String} {p : Fetch P → Prop}
    (hold : ∀ x ∈ s.fetches, p x)
    (hnew : p { id := s.started, awaiting := awaiting, filter := s.filter, cursor := cursor }) :
    ∀ x ∈ (s.startFetch awaiting cursor).fetches, p x := by
  intro x hx
  rcases mem_startFetch.mp hx with hx | rfl
  · exact hold x hx
  · exact hnew

/-- A fetch that is started changes no cell. -/
theorem Settled.startFetch (h : Settled partText pages s) {awaiting : Awaiting}
    {cursor : Option String}
    (hnext : ∀ nextCursor, awaiting = .goNext nextCursor →
      nextCursor ≠ "" ∧ cursor = some nextCursor) :
    Settled partText pages (s.startFetch awaiting cursor) := by
  refine ⟨h.key, forall_startFetch (fun x hx => Nat.lt_succ_of_lt (h.fresh x hx))
    (Nat.lt_succ_self _), forall_startFetch h.next hnext, ?_⟩
  rcases h.shown with ⟨id, hid⟩ | ⟨hnone, hpage⟩
  · obtain ⟨x, hx, hxid⟩ := hid.inFlight
    refine Or.inl ⟨id, hid.effect, ⟨x, mem_startFetch.mpr (Or.inl hx), hxid⟩,
      forall_startFetch hid.fetch fun hsame => ?_⟩
    -- the new fetch has an id of its own
    have hless := h.fresh x hx
    rw [hxid, ← hsame] at hless
    exact absurd hless (Nat.lt_irrefl _)
  · exact Or.inr ⟨hnone, hpage.nonempty, hpage.cursors, hpage.data, hpage.total,
      hpage.nextCursor⟩

/-- A filter with another key is fetched. -/
theorem Settled.changeFilter [DecidableEq P] (h : Settled partText pages s)
    (hok : filter = s.filter ∨ Pagination.fk partText filter ≠ Pagination.fk partText s.filter) :
    Settled partText pages (s.changeFilter partText filter) := by
  unfold Pagination.changeFilter
  by_cases hsame : filter = s.filter
  · rw [if_pos hsame]
    exact h
  · have hkey : ¬ s.prevFilterKey = Pagination.fk partText filter := by
      rw [h.key]
      exact fun hfk => (hok.resolve_left hsame) hfk.symm
    rw [if_neg hsame]
    dsimp only
    rw [if_neg hkey]
    refine ⟨rfl, forall_startFetch (fun x hx => Nat.lt_succ_of_lt (h.fresh x hx))
      (Nat.lt_succ_self _), forall_startFetch h.next nofun, Or.inl ⟨s.started, rfl,
      ⟨_, mem_startFetch.mpr (Or.inr rfl), rfl⟩, forall_startFetch (fun x hx hxid => ?_)
      fun _ => ⟨rfl, rfl, rfl⟩⟩⟩
    have hless := h.fresh x hx
    rw [hxid] at hless
    exact absurd hless (Nat.lt_irrefl _)

/-- The cells with an answer, and a stack that has the cursor of the answer on top. -/
theorem onPage_setResult {stack : List (Option String)} {cursor : Option String}
    {fetches : List (Fetch P)} {loading : Bool} {effect : Option Nat} (hne : stack ≠ [])
    (hcursors : ∀ i cursor, stack[i]? = some cursor → cursorOf pages s.filter i = some cursor)
    (htop : stack.getLast?.getD none = cursor) :
    OnPage pages
      { ({ s with fetches := fetches }.setResult (pages s.filter cursor)) with
        cursorStack := stack, loading := loading, effect := effect } := by
  subst htop
  exact ⟨hne, hcursors, rfl, rfl, rfl⟩

/-- The next page. -/
theorem OnPage.next_cursors (h : OnPage pages s) {nextCursor : String}
    (hnext : s.nextCursor = some nextCursor) (hne : nextCursor ≠ "") :
    ∀ i cursor, (s.cursorStack ++ [some nextCursor])[i]? = some cursor →
      cursorOf pages s.filter i = some cursor := by
  intro i cursor hi
  by_cases hlast : i < s.cursorStack.length
  · rw [List.getElem?_append_left hlast] at hi
    exact h.cursors i cursor hi
  · rw [List.getElem?_append_right (Nat.le_of_not_lt hlast)] at hi
    obtain ⟨hplace, hcursor⟩ := List.getElem?_eq_some_iff.mp hi
    rw [List.length_singleton] at hplace
    have hpos : 0 < s.cursorStack.length := List.length_pos_of_ne_nil h.nonempty
    have hi' : i = (s.page - 1) + 1 := by
      unfold Pagination.page
      omega
    have htruthy : nonempty? (some nextCursor) = some nextCursor := by simp [nonempty?, hne]
    rw [hi', cursorOf, h.page, Option.bind_some, ← h.nextCursor, hnext, htruthy]
    simpa using hcursor

theorem OnPage.previous_cursors (h : OnPage pages s) :
    ∀ i cursor, s.cursorStack.dropLast[i]? = some cursor →
      cursorOf pages s.filter i = some cursor := by
  intro i cursor hi
  rw [List.dropLast_eq_take, List.getElem?_take] at hi
  split at hi
  · exact h.cursors i cursor hi
  · cases hi

/-- What every answer does: the fetch is not in flight any more, and the filter stays. -/
structure Answered (s s' : Pagination T P) (id : Nat) : Prop where
  key : s'.prevFilterKey = s.prevFilterKey
  filter : s'.filter = s.filter
  started : s'.started = s.started
  effect : s.effect ≠ some id → s'.effect = s.effect
  fetches : s'.fetches = s.fetches.filter fun fetch => fetch.id != id

theorem answered (pages : Option (FilterKey P) → Option String → PaginatedResult T)
    (s : Pagination T P) (id : Nat) : Answered s (s.answer pages id) id := by
  unfold Pagination.answer
  cases hfind : s.fetches.find? fun fetch => fetch.id == id with
  | none =>
    refine ⟨rfl, rfl, rfl, fun _ => rfl, (List.filter_eq_self.mpr fun fetch hfetch => ?_).symm⟩
    simpa using List.find?_eq_none.mp hfind fetch hfetch
  | some fetch =>
    dsimp only
    cases fetch.awaiting with
    | filterEffect =>
      dsimp only
      split
      · rename_i heffect
        exact ⟨rfl, rfl, rfl, fun hother => absurd heffect hother, rfl⟩
      · exact ⟨rfl, rfl, rfl, fun _ => rfl, rfl⟩
    | goNext nextCursor => exact ⟨rfl, rfl, rfl, fun _ => rfl, rfl⟩
    | goPrevious => exact ⟨rfl, rfl, rfl, fun _ => rfl, rfl⟩
    | refresh => exact ⟨rfl, rfl, rfl, fun _ => rfl, rfl⟩

/-- While the effect fetches, what the other answers do is of no account. -/
theorem Refetches.answer {id id' : Nat} (h : Refetches s id) (hne : id' ≠ id) :
    Refetches (s.answer pages id') id := by
  have hanswered := answered pages s id'
  have hother : s.effect ≠ some id' := by
    rw [h.effect]
    exact fun he => hne (Option.some.inj he).symm
  obtain ⟨x, hx, hxid⟩ := h.inFlight
  refine ⟨(hanswered.effect hother).trans h.effect, ⟨x, ?_, hxid⟩, fun y hy hyid => ?_⟩
  · rw [hanswered.fetches, List.mem_filter, hxid]
    exact ⟨hx, bne_iff_ne.mpr hne.symm⟩
  · rw [hanswered.fetches] at hy
    rw [hanswered.filter]
    exact h.fetch y (List.mem_of_mem_filter hy) hyid

/-- The effect shows the first page of the filter. -/
theorem Refetches.answer_self {id : Nat} (h : Refetches s id) :
    (s.answer pages id).effect = none ∧ OnPage pages (s.answer pages id) := by
  obtain ⟨x, hx, hxid⟩ := h.inFlight
  unfold Pagination.answer
  cases hfind : s.fetches.find? fun x => x.id == id with
  | none =>
    have hnot := List.find?_eq_none.mp hfind x hx
    simp [hxid] at hnot
  | some fetch =>
    have hid : fetch.id = id := by simpa using List.find?_some hfind
    obtain ⟨hawaiting, hfilter, hcursor⟩ := h.fetch fetch (List.mem_of_find?_eq_some hfind) hid
    dsimp only
    rw [hawaiting]
    dsimp only
    rw [if_pos h.effect, hfilter, hcursor]
    refine ⟨rfl, onPage_setResult (List.cons_ne_nil _ _) (fun i cursor hi => ?_) rfl⟩
    obtain ⟨hplace, rfl⟩ := List.getElem?_eq_some_iff.mp hi
    rw [List.length_singleton] at hplace
    obtain rfl : i = 0 := by omega
    rfl

/-- An answer in time shows the page that the call asks for. -/
theorem OnPage.answer (h : OnPage pages s) (hnone : s.effect = none)
    (hnext : ∀ fetch ∈ s.fetches, ∀ nextCursor, fetch.awaiting = .goNext nextCursor →
      nextCursor ≠ "" ∧ fetch.cursor = some nextCursor) {id : Nat}
    (htime : ∀ fetch, (s.fetches.find? fun fetch => fetch.id == id) = some fetch →
      InTime s fetch) :
    (s.answer pages id).effect = none ∧ OnPage pages (s.answer pages id) := by
  unfold Pagination.answer
  cases hfind : s.fetches.find? fun x => x.id == id with
  | none => exact ⟨hnone, h⟩
  | some fetch =>
    have hmem := List.mem_of_find?_eq_some hfind
    have hin := htime fetch hfind
    unfold InTime at hin
    rw [hnone] at hin
    dsimp only
    cases hawaiting : fetch.awaiting with
    | filterEffect =>
      dsimp only
      rw [hnone, if_neg nofun]
      exact ⟨rfl, h.nonempty, h.cursors, h.data, h.total, h.nextCursor⟩
    | goNext nextCursor =>
      obtain ⟨hfilter, hrepeats⟩ : fetch.filter = s.filter ∧
          Repeats s fetch.cursor (.goNext nextCursor) := by simpa [hawaiting] using hin
      obtain ⟨hne, hcursor⟩ := hnext fetch hmem nextCursor hawaiting
      dsimp only
      rw [hfilter, hcursor]
      refine ⟨hnone, onPage_setResult (by simp) (h.next_cursors hrepeats hne) ?_⟩
      rw [List.getLast?_append_of_ne_nil _ (by simp)]
      rfl
    | goPrevious =>
      obtain ⟨hfilter, hmore, hcursor⟩ : fetch.filter = s.filter ∧
          Repeats s fetch.cursor .goPrevious := by simpa [hawaiting] using hin
      have hlength : 1 < s.cursorStack.length := of_decide_eq_true hmore
      have hne : s.cursorStack.dropLast ≠ [] := by
        refine List.ne_nil_of_length_pos ?_
        rw [List.length_dropLast]
        omega
      dsimp only
      rw [hfilter, hcursor]
      refine ⟨hnone, onPage_setResult hne h.previous_cursors ?_⟩
      -- what is below the top
      have hplace : s.cursorStack.length - 1 - 1 = s.cursorStack.length - 2 := by omega
      unfold Pagination.prevCursor
      rw [List.getLast?_eq_getElem?, List.length_dropLast, hplace, List.dropLast_eq_take,
        List.getElem?_take_of_lt (by omega)]
    | refresh =>
      obtain ⟨hfilter, hcursor⟩ : fetch.filter = s.filter ∧
          Repeats s fetch.cursor .refresh := by simpa [hawaiting] using hin
      dsimp only
      rw [hfilter, hcursor]
      exact ⟨hnone, onPage_setResult h.nonempty h.cursors rfl⟩

/-- An answer in time keeps it. -/
theorem Settled.answer (h : Settled partText pages s) {id : Nat}
    (htime : ∀ fetch, (s.fetches.find? fun fetch => fetch.id == id) = some fetch →
      InTime s fetch) :
    Settled partText pages (s.answer pages id) := by
  have hanswered := answered pages s id
  have hmem : ∀ x ∈ (s.answer pages id).fetches, x ∈ s.fetches := by
    rw [hanswered.fetches]
    exact fun x hx => List.mem_of_mem_filter hx
  refine ⟨?_, fun x hx => ?_, fun x hx => h.next x (hmem x hx), ?_⟩
  · rw [hanswered.key, hanswered.filter]
    exact h.key
  · rw [hanswered.started]
    exact h.fresh x (hmem x hx)
  · rcases h.shown with ⟨id', hid'⟩ | ⟨hnone, hpage⟩
    · by_cases he : id = id'
      · subst he
        exact Or.inr hid'.answer_self
      · exact Or.inl ⟨id', hid'.answer he⟩
    · exact Or.inr (hpage.answer hnone h.next htime)

theorem settled_firstRender : Settled partText pages (firstRender partText pages filter) := by
  refine ⟨rfl, nofun, nofun, Or.inr ⟨rfl, List.cons_ne_nil _ _, fun i cursor hi => ?_, rfl, rfl,
    rfl⟩⟩
  obtain ⟨hplace, rfl⟩ := List.getElem?_eq_some_iff.mp hi
  rw [show (firstRender partText pages filter).cursorStack = [none] from rfl,
    List.length_singleton] at hplace
  obtain rfl : i = 0 := by omega
  rfl

/-- When no fetch is in flight, the cells are those of a page. -/
theorem Settled.onPage (h : Settled partText pages s) (hquiet : s.fetches = []) :
    OnPage pages s := by
  rcases h.shown with ⟨id, hid⟩ | ⟨-, hpage⟩
  · obtain ⟨x, hx, -⟩ := hid.inFlight
    rw [hquiet] at hx
    cases hx
  · exact hpage

variable [DecidableEq P]

/-- **Every step keeps it** : the cells are those of a page of the filter, or its first page is being
fetched. -/
theorem settled_step (h : Settled partText pages s) (hok : StepOk partText s a) :
    Settled partText pages ((useCursorPagination partText pages).step s a) := by
  cases a with
  | goNext =>
    show Settled partText pages s.goNext
    unfold Pagination.goNext
    cases hnext : nonempty? s.nextCursor with
    | none => exact h
    | some nextCursor =>
      refine h.startFetch fun c hc => ?_
      cases hc
      refine ⟨?_, rfl⟩
      obtain ⟨-, hne⟩ := Option.filter_eq_some_iff.mp hnext
      simpa using hne
  | goPrevious =>
    show Settled partText pages s.goPrevious
    unfold Pagination.goPrevious
    split
    · exact h.startFetch nofun
    · exact h
  | refresh => exact h.startFetch nofun
  | changeFilter filter => exact h.changeFilter hok
  | answer id => exact h.answer hok

/-- The same after a run. -/
theorem settled_run {as : List (PageAction P)}
    (h : (useCursorPagination partText pages).Meets (StepOk partText)
      (firstRender partText pages filter) as) :
    Settled partText pages
      ((useCursorPagination partText pages).run (firstRender partText pages filter) as) :=
  Machine.run_invariant (fun _ _ hs ha => settled_step hs ha) settled_firstRender h

/-- **The list shows the page that it is on**, in every state that a run goes through and in
which no fetch is in flight, if all its steps are in time. -/
theorem shows_run {limit : Nat} {as : List (PageAction P)}
    (h : (useCursorPagination partText pages).Meets (StepOk partText)
      (firstRender partText pages filter) as) :
    ∀ as₁ as₂, as = as₁ ++ as₂ →
      ((useCursorPagination partText pages).run
        (firstRender partText pages filter) as₁).fetches = [] →
      Shows pages limit
        ((useCursorPagination partText pages).run (firstRender partText pages filter) as₁) := by
  rintro as₁ as₂ rfl hquiet
  have hpart := ((Machine.meets_append ..).mp h).1
  exact ((settled_run hpart).onPage hquiet).shows limit

end

/-! ## Two pages -/

/-- The pages of the filter `initial`, and the page of any other filter. -/
def twoPages (filter : Option (FilterKey String)) (cursor : Option String) :
    PaginatedResult String :=
  if filter = some (.text "initial") then
    if cursor = some "page-2" then { data := ["3", "4"], totalCount := 4, nextCursor := none }
    else { data := ["1", "2"], totalCount := 4, nextCursor := some "page-2" }
  else { data := ["filtered"], totalCount := 1, nextCursor := none }

/-- Forward and back, each call answered before the next, and another filter. -/
theorem shows_forwardAndBack :
    Shows twoPages 2
      ((useCursorPagination id twoPages).run (firstRender id twoPages (some (.text "initial")))
        [.goNext, .answer 0, .goPrevious, .answer 1, .changeFilter (some (.text "after")),
          .answer 2]) :=
  shows_run (by decide)
    [.goNext, .answer 0, .goPrevious, .answer 1, .changeFilter (some (.text "after")), .answer 2] []
    rfl (by decide)

/-- The filter changes while the next page is fetched, and that comes after the first page of the new
filter : the list shows the second page of the old one. -/
theorem not_shows_goNext_late :
    ((useCursorPagination id twoPages).run (firstRender id twoPages (some (.text "initial")))
        [.goNext, .changeFilter (some (.text "after")), .answer 1, .answer 0]).fetches = [] ∧
      ¬ Shows twoPages 2
        ((useCursorPagination id twoPages).run (firstRender id twoPages (some (.text "initial")))
          [.goNext, .changeFilter (some (.text "after")), .answer 1, .answer 0]) := by
  refine ⟨by decide, fun h => ?_⟩
  have hdata := h.data
  revert hdata
  decide

end LedgerLight.Frontend
