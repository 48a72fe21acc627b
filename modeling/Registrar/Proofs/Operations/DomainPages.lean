import Mathlib.Algebra.Order.Floor.Div
import Registrar.Proofs.Operations.DomainListing
import Registrar.Proofs.Operations.Runs

/-!
# Domains page by page

The domains of an account are asked page by page. `Client.Turn` is the command for one page: all its
requests ask for that page, by its number, and the page that it comes to is the one in its last
answer. `Client.Answered` is a row of such commands for consecutive pages, each answered with its
page; a listing is such a row and the command that ends it (`runs_domainsFrom_iff`). If the
registrar `Serves` a sequence of pages, a listing asks for them from the first one to the first that
`IsLast`, and gives all their domains or the failure that cut it short (`Client.Lists`). Main
statements: `runs_listDomains_of_slices`, an account that is served in slices is listed as it is,
and `exists_lists_of_bounded`, no pages whatsoever make a listing longer than the largest total
among them.
-/

namespace Registrar

open Dialogue

/-! ## Pages -/

namespace DomainPage

/-- The page ends a listing that has found these domains before it. -/
def IsLast (found : List Domain) (p : DomainPage) : Prop :=
  p.domains = [] ∨ min p.total Decimal.max64 ≤ (found ++ p.domains).length

instance (found : List Domain) (p : DomainPage) : Decidable (p.IsLast found) :=
  inferInstanceAs (Decidable (_ ∨ _))

/-- The domains of some pages, one page after another. -/
def join (pages : List DomainPage) : List Domain := pages.flatMap (·.domains)

@[simp] theorem join_nil : join [] = [] := rfl

@[simp] theorem join_cons (p : DomainPage) (pages : List DomainPage) :
    join (p :: pages) = p.domains ++ join pages := List.flatMap_cons

@[simp] theorem join_append (pages later : List DomainPage) :
    join (pages ++ later) = join pages ++ join later := List.flatMap_append

/-- None of these pages ends a listing that has found `found` before them. -/
def Pending (found : List Domain) : List DomainPage → Prop
  | [] => True
  | p :: pages => ¬p.IsLast found ∧ Pending (found ++ p.domains) pages

theorem pending_concat_iff {found : List Domain} {pages : List DomainPage} {p : DomainPage} :
    Pending found (pages ++ [p]) ↔ Pending found pages ∧ ¬p.IsLast (found ++ join pages) := by
  induction pages generalizing found with
  | nil => simp [Pending]
  | cons q pages ih => simp [Pending, ih, and_assoc]

/-- The first pages of a sequence that begins with page one. -/
def firstPages (f : Nat → DomainPage) (n : Nat) : List DomainPage := (List.range' 1 n).map f

variable {f : Nat → DomainPage} {m n k : Nat}

@[simp] theorem firstPages_zero : firstPages f 0 = [] := rfl

@[simp] theorem length_firstPages : (firstPages f n).length = n := by
  rw [firstPages, List.length_map, List.length_range']

theorem firstPages_succ (f : Nat → DomainPage) (n : Nat) :
    firstPages f (n + 1) = firstPages f n ++ [f (n + 1)] := by
  rw [firstPages, List.range'_1_concat, List.map_append, Nat.add_comm 1 n]
  rfl

/-- The domains of the last page stand behind those of the pages before it. -/
theorem join_firstPages_succ (f : Nat → DomainPage) (n : Nat) :
    join (firstPages f (n + 1)) = join (firstPages f n) ++ (f (n + 1)).domains := by
  rw [firstPages_succ, join_append, join_cons, join_nil, List.append_nil]

theorem take_firstPages (h : k ≤ n) : (firstPages f n).take k = firstPages f k := by
  induction n with
  | zero => rw [Nat.le_zero.1 h, List.take_zero, firstPages_zero]
  | succ n ih =>
    rcases Nat.lt_or_eq_of_le h with before | rfl
    · have within : k ≤ n := Nat.le_of_lt_succ before
      rw [firstPages_succ, List.take_append_of_le_length (by rwa [length_firstPages]), ih within]
    · exact List.take_of_length_le (Nat.le_of_eq length_firstPages)

/-- Page `n + 1` is the first page of the sequence that ends a listing. -/
structure EndsAfter (f : Nat → DomainPage) (n : Nat) : Prop where
  pending : Pending [] (firstPages f n)
  isLast : (f (n + 1)).IsLast (join (firstPages f n))

theorem pending_firstPages_succ_iff :
    Pending [] (firstPages f (n + 1)) ↔
      Pending [] (firstPages f n) ∧ ¬(f (n + 1)).IsLast (join (firstPages f n)) := by
  rw [firstPages_succ, pending_concat_iff, List.nil_append]

theorem Pending.of_le (h : Pending [] (firstPages f n)) (hk : k ≤ n) :
    Pending [] (firstPages f k) := by
  induction n with
  | zero => rwa [Nat.le_zero.1 hk]
  | succ n ih =>
    rcases Nat.lt_or_eq_of_le hk with before | rfl
    · exact ih (pending_firstPages_succ_iff.1 h).1 (Nat.le_of_lt_succ before)
    · exact h

/-- A page that does not end a listing has one domain at least. -/
theorem Pending.le_length_join (h : Pending [] (firstPages f n)) :
    n ≤ (join (firstPages f n)).length := by
  induction n with
  | zero => exact Nat.zero_le _
  | succ n ih =>
    obtain ⟨earlier, goes_on⟩ := pending_firstPages_succ_iff.1 h
    have some_domain : 0 < (f (n + 1)).domains.length :=
      List.length_pos_iff.2 fun none => goes_on (.inl none)
    have so_far := ih earlier
    rw [join_firstPages_succ, List.length_append]
    omega

theorem EndsAfter.le_of_pending (h : EndsAfter f n) (hk : Pending [] (firstPages f k)) :
    k ≤ n := by
  by_contra after
  have more : n + 1 ≤ k := by omega
  exact (pending_firstPages_succ_iff.1 (hk.of_le more)).2 h.isLast

theorem EndsAfter.unique (h : EndsAfter f n) (hk : EndsAfter f k) : k = n :=
  Nat.le_antisymm (h.le_of_pending hk.pending) (hk.le_of_pending h.pending)

theorem exists_endsAfter_or_pending (f : Nat → DomainPage) (m : Nat) :
    (∃ n < m, EndsAfter f n) ∨ Pending [] (firstPages f m) := by
  induction m with
  | zero => exact .inr trivial
  | succ m ih =>
    rcases ih with ⟨n, hn, ends⟩ | pending
    · exact .inl ⟨n, Nat.lt_succ_of_lt hn, ends⟩
    · by_cases last : (f (m + 1)).IsLast (join (firstPages f m))
      · exact .inl ⟨m, Nat.lt_succ_self m, pending, last⟩
      · exact .inr (pending_firstPages_succ_iff.2 ⟨pending, last⟩)

/-- A listing cannot go on for more pages than any of them says that there are domains. -/
theorem exists_endsAfter {total : Nat} (bounded : ∀ page, (f page).total ≤ total) :
    ∃ n < max 1 total, EndsAfter f n := by
  obtain ⟨n, hn⟩ : ∃ n, max 1 total = n + 1 := ⟨max 1 total - 1, by omega⟩
  rw [hn]
  refine (exists_endsAfter_or_pending f (n + 1)).resolve_right fun pending => ?_
  have come := pending.le_length_join
  have goes_on := (pending_firstPages_succ_iff.1 pending).2
  refine goes_on (.inr ?_)
  have here := bounded (n + 1)
  rw [← join_firstPages_succ]
  omega

end DomainPage

/-! ## The command for a page -/

namespace Request

/-- The request asks for this page of the domains. -/
structure AsksPage (r : Request) (page : Nat) : Prop where
  command : r.get? "Command" = some "namecheap.domains.getList"
  page : r.get? "Page" = some (Decimal.wholeText page)

theorem asksPage_ofCommand (page : Nat) (c : Credentials) (endpoint : String) :
    (ofCommand (.domainPage page) c endpoint).AsksPage page where
  command := get?_command ..
  page := by
    have params : (Command.domainPage page).params =
        [("Page", Decimal.wholeText page), ("PageSize", Decimal.wholeText Command.pageSize)] := by
      simp [Command.domainPage, Command.set, Command.setIn, Command.new]
    have free : isReserved "Page" = false := by decide +kernel
    simp [get?, ofCommand, credentialPairs, params, free, List.lookup_cons]

theorem AsksPage.unique {r : Request} {m n : Nat} (hm : r.AsksPage m) (hn : r.AsksPage n) :
    m = n :=
  Decimal.wholeText_inj (Option.some.inj (hm.page.symm.trans hn.page))

end Request

namespace Client

open DomainPage

/-- What one command for a page has sent and heard: every request asks for that page, and if the
command comes to a page, the last answer holds it. -/
structure Turn (c : Client) (page : Nat) (events : List Event)
    (answer : Except Failure DomainPage) : Prop where
  run : Runs (c.domainPage page).run events answer
  single : commands events = 1
  asks : ∀ x ∈ traffic events, x.1.AsksPage page
  held : ∀ p, answer = .ok p → ∃ request r,
    (traffic events).getLast? = some (request, .answered (.ok r)) ∧ DomainPage.Holds r p

/-! ## A listing and its commands -/

/-- The commands for page `page` and the following ones, each answered with its page. -/
inductive Answered (c : Client) : Nat → List Event → List DomainPage → Prop
  | nil (page : Nat) : Answered c page [] []
  | cons {page : Nat} {before after : List Event} {p : DomainPage} {pages : List DomainPage}
      (turn : c.Turn page before (.ok p)) (later : Answered c (page + 1) after pages) :
      Answered c page (before ++ after) (p :: pages)

/-- How a listing that has found `found` ends with the command for page `page`. -/
inductive Ends (c : Client) (page : Nat) (found : List Domain) (events : List Event) :
    Except Failure (List Domain) → Prop
  | failed {e : Failure} (turn : c.Turn page events (.error e)) :
      Ends c page found events (.error e)
  | last {p : DomainPage} (turn : c.Turn page events (.ok p)) (isLast : p.IsLast found) :
      Ends c page found events (.ok (found ++ p.domains))

/-- What follows the command for page `page`. -/
def afterPage (c : Client) (page : Nat) (found : List Domain) :
    Except Failure DomainPage → Call (Except Failure (List Domain))
  | .error e => .done (.error e)
  | .ok p =>
    if p.IsLast found then .done (.ok (found ++ p.domains))
    else (c.domainsFrom (page + 1) (found ++ p.domains)).run

variable {c : Client} {page : Nat} {found : List Domain} {events : List Event} {p : DomainPage}
  {pages later : List DomainPage} {answer : Except Failure (List Domain)}

theorem run_domainsFrom (c : Client) (page : Nat) (found : List Domain) :
    (c.domainsFrom page found).run = (c.domainPage page).run.andThen (c.afterPage page found) := by
  rw [domainsFrom, Operation.run_bind]
  refine congrArg (andThen _) (funext fun result => ?_)
  cases result with
  | error e => rfl
  | ok p =>
    unfold afterPage
    by_cases last : p.IsLast found
    · exact (congrArg ExceptT.run (dif_pos last)).trans (if_pos last).symm
    · exact (congrArg ExceptT.run (dif_neg last)).trans (if_neg last).symm

theorem answered_append_iff :
    c.Answered page events (pages ++ later) ↔
      ∃ before after, events = before ++ after ∧ c.Answered page before pages ∧
        c.Answered (page + pages.length) after later := by
  constructor
  · intro h
    induction pages generalizing page events with
    | nil => exact ⟨[], events, rfl, .nil page, h⟩
    | cons p pages ih =>
      cases h with
      | @cons _ first _ _ _ turn rest =>
        obtain ⟨before, after, rfl, h₁, h₂⟩ := ih rest
        refine ⟨first ++ before, after, (List.append_assoc ..).symm, .cons turn h₁, ?_⟩
        rwa [Nat.add_assoc, Nat.add_comm 1] at h₂
  · rintro ⟨before, after, rfl, h₁, h₂⟩
    induction h₁ with
    | nil page => exact h₂
    | @cons page first rest p pages turn _ ih =>
      rw [List.append_assoc]
      refine .cons turn (ih ?_)
      rwa [Nat.add_assoc, Nat.add_comm 1]

theorem answered_singleton_iff : c.Answered page events [p] ↔ c.Turn page events (.ok p) := by
  constructor
  · intro h
    cases h with
    | cons turn later =>
      cases later
      rwa [List.append_nil]
  · intro turn
    rw [← List.append_nil events]
    exact .cons turn (.nil _)

theorem turn_of_runs {result : Except Failure DomainPage} (hpos : 0 < c.plan.maxAttempts)
    (run : Runs (c.domainPage page).run events result) : c.Turn page events result where
  run := run
  single := commands_of_runs run
  asks x sent := by
    rw [(Operation.sends_run c (.domainPage page) DomainPage.fields).of_runs run x sent]
    exact Request.asksPage_ofCommand ..
  held p h := by
    subst h
    obtain ⟨request, r, envelope, last, decoded, held⟩ :=
      last_of_tells (tells_of_runs hpos (readsOnly_payload _) run)
    exact ⟨request, r, last, envelope, decoded, held⟩

/-- A listing is a row of pages that do not end it, and the command that does. -/
theorem runs_domainsFrom_iff (hpos : 0 < c.plan.maxAttempts) :
    Runs (c.domainsFrom page found).run events answer ↔
      ∃ before after pages, events = before ++ after ∧ c.Answered page before pages ∧
        Pending found pages ∧ c.Ends (page + pages.length) (found ++ join pages) after answer := by
  constructor
  · intro h
    -- The listing that follows a page has found more, so the induction is on what is still missing.
    induction page, found using domainsFrom.induct generalizing events with
    | case1 page found ih =>
      rw [run_domainsFrom, runs_andThen_iff] at h
      obtain ⟨before, after, result, rfl, asked, rest⟩ := h
      have turn := turn_of_runs hpos asked
      cases result with
      | error e =>
        obtain ⟨rfl, rfl⟩ := runs_done_iff.1 rest
        rw [List.append_nil]
        exact ⟨[], before, [], rfl, .nil page, trivial, .failed turn⟩
      | ok p =>
        by_cases last : p.IsLast found
        · rw [afterPage, if_pos last] at rest
          obtain ⟨rfl, rfl⟩ := runs_done_iff.1 rest
          rw [List.append_nil]
          refine ⟨[], before, [], rfl, .nil page, trivial, ?_⟩
          rw [join_nil, List.append_nil]
          exact .last turn last
        · rw [afterPage, if_neg last] at rest
          obtain ⟨before', after, pages, rfl, answered, pending, ends⟩ := ih p last rest
          refine ⟨before ++ before', after, p :: pages, (List.append_assoc ..).symm,
            .cons turn answered, ⟨last, pending⟩, ?_⟩
          rwa [Nat.add_assoc, Nat.add_comm 1, List.append_assoc, ← join_cons] at ends
  · rintro ⟨before, after, pages, rfl, answered, pending, ends⟩
    induction answered generalizing found with
    | nil page =>
      rw [join_nil, List.append_nil] at ends
      rw [run_domainsFrom, runs_andThen_iff]
      refine ⟨after, [], ?_⟩
      cases ends with
      | failed turn => exact ⟨_, (List.append_nil _).symm, turn.run, .done _⟩
      | last turn isLast =>
        refine ⟨_, (List.append_nil _).symm, turn.run, ?_⟩
        rw [afterPage, if_pos isLast]
        exact .done _
    | @cons page first rest p pages turn _ ih =>
      obtain ⟨goes_on, pending⟩ := pending
      rw [run_domainsFrom, runs_andThen_iff]
      refine ⟨first, rest ++ after, .ok p, List.append_assoc .., turn.run, ?_⟩
      rw [afterPage, if_neg goes_on]
      refine ih pending ?_
      rwa [Nat.add_assoc, Nat.add_comm 1, List.append_assoc, ← join_cons]

/-- A row of pages that do not end a listing leaves it at the next command. -/
theorem Answered.reaches (answered : c.Answered page events pages) (pending : Pending found pages) :
    Reaches (c.domainsFrom page found).run events
      (c.domainsFrom (page + pages.length) (found ++ join pages)).run := by
  induction answered generalizing found with
  | nil page =>
    rw [join_nil, List.append_nil]
    exact .here _
  | @cons page first rest p pages turn _ ih =>
    obtain ⟨goes_on, pending⟩ := pending
    rw [run_domainsFrom, reaches_andThen_iff]
    refine .inr ⟨first, rest, .ok p, rfl, turn.run, ?_⟩
    rw [afterPage, if_neg goes_on, List.length_cons, Nat.add_comm pages.length, ← Nat.add_assoc,
      join_cons, ← List.append_assoc]
    exact ih pending

@[simp] theorem commands_append (before after : List Event) :
    commands (before ++ after) = commands before + commands after :=
  List.countP_append

theorem Answered.commands_eq (answered : c.Answered page events pages) :
    commands events = pages.length := by
  induction answered with
  | nil page => rfl
  | cons turn _ ih => rw [commands_append, turn.single, ih, List.length_cons, Nat.add_comm]

/-- A listing goes on with a command: the breaker is asked to admit it. -/
theorem exists_run_domainsFrom (c : Client) (page : Nat) (found : List Domain) :
    ∃ next, (c.domainsFrom page found).run = .ask (.other .enter) next := by
  have begins : (c.domainPage page).run = _ :=
    execute_eq c (.domainPage page) (·.payload DomainPage.fields.reader)
  rw [run_domainsFrom, begins]
  exact ⟨_, rfl⟩

/-! ## Listings of what a registrar serves -/

/-- Whatever page the registrar gave in answer to the request for a page is that one of the
sequence; it may also refuse to answer, or answer what cannot be read. -/
def Serves (f : Nat → DomainPage) (events : List Event) : Prop :=
  ∀ page request r p, (request, .answered (.ok r)) ∈ traffic events → request.AsksPage page →
    DomainPage.Holds r p → p = f page

/-- The listing of these pages: their commands in order, from page one, and all their domains, or
the failure of the first command that is not answered with its page. -/
inductive Lists (c : Client) (pages : List DomainPage) :
    List Event → Except Failure (List Domain) → Prop
  | whole {events : List Event} (answered : c.Answered 1 events pages) :
      Lists c pages events (.ok (join pages))
  | cut {before after : List Event} {e : Failure} (k : Nat) (early : k < pages.length)
      (answered : c.Answered 1 before (pages.take k)) (failed : c.Turn (k + 1) after (.error e)) :
      Lists c pages (before ++ after) (.error e)

/-- There is a command for each page at most. -/
theorem Lists.commands_le (lists : c.Lists pages events answer) :
    commands events ≤ pages.length := by
  cases lists with
  | whole answered => exact answered.commands_eq.le
  | cut k early answered failed =>
    rw [commands_append, answered.commands_eq, failed.single, List.length_take]
    omega

section

variable {f : Nat → DomainPage} {before after : List Event}

theorem serves_append_iff : Serves f (before ++ after) ↔ Serves f before ∧ Serves f after := by
  simp only [Serves, traffic_append, List.mem_append]
  constructor
  · intro serves
    exact ⟨fun page request r p sent => serves page request r p (.inl sent),
      fun page request r p sent => serves page request r p (.inr sent)⟩
  · rintro ⟨first, later⟩ page request r p (sent | sent)
    · exact first page request r p sent
    · exact later page request r p sent

/-- A page command comes to the page that the registrar serves, if it comes to any. -/
theorem Serves.page_eq (serves : Serves f events) (turn : c.Turn page events (.ok p)) :
    p = f page := by
  obtain ⟨request, r, last, holds⟩ := turn.held p rfl
  have sent := List.mem_of_getLast? last
  exact serves page request r p sent (turn.asks _ sent) holds

theorem Answered.pages_eq (answered : c.Answered page events pages) (serves : Serves f events) :
    pages = (List.range' page pages.length).map f := by
  induction answered with
  | nil page => rfl
  | cons turn _ ih =>
    obtain ⟨first, later⟩ := serves_append_iff.1 serves
    rw [first.page_eq turn, List.length_cons, List.range'_succ, List.map_cons, ← ih later]

/-- A listing of a registrar that serves a sequence of pages asks for them up to the first one that
ends it. -/
theorem runs_listDomains_iff {n : Nat} (hpos : 0 < c.plan.maxAttempts) (ends : EndsAfter f n)
    (serves : Serves f events) :
    Runs c.listDomains.run events answer ↔ c.Lists (firstPages f (n + 1)) events answer := by
  unfold listDomains
  rw [runs_domainsFrom_iff hpos]
  constructor
  · rintro ⟨before, after, pages, rfl, answered, pending, final⟩
    obtain ⟨first, later⟩ := serves_append_iff.1 serves
    generalize hk : pages.length = k at final
    obtain rfl : pages = firstPages f k := by
      have := answered.pages_eq first
      rwa [hk] at this
    have few : k ≤ n := ends.le_of_pending pending
    rw [List.nil_append, Nat.add_comm 1] at final
    cases final with
    | failed turn =>
      have early : k < (firstPages f (n + 1)).length := by
        rw [length_firstPages]
        omega
      refine .cut k early ?_ turn
      rwa [take_firstPages (by omega)]
    | last turn isLast =>
      obtain rfl := later.page_eq turn
      obtain rfl := ends.unique ⟨pending, isLast⟩
      rw [← join_firstPages_succ]
      refine .whole ?_
      rw [firstPages_succ]
      refine answered_append_iff.2 ⟨before, after, rfl, answered, answered_singleton_iff.2 ?_⟩
      rwa [length_firstPages, Nat.add_comm 1]
  · rintro (⟨answered⟩ | @⟨before, after, e, k, early, answered, failed⟩)
    · rw [firstPages_succ] at answered
      obtain ⟨before, after, rfl, answered, turn⟩ := answered_append_iff.1 answered
      refine ⟨before, after, firstPages f n, rfl, answered, ends.pending, ?_⟩
      rw [join_firstPages_succ]
      refine .last (answered_singleton_iff.1 turn) ?_
      exact ends.isLast
    · rw [length_firstPages] at early
      rw [take_firstPages (by omega)] at answered
      refine ⟨before, after, firstPages f k, rfl, answered, ends.pending.of_le (by omega), ?_⟩
      rw [length_firstPages, Nat.add_comm 1]
      exact .failed failed

end

/-! ## A registrar that answers at once -/

/-- The commands for the first pages of a sequence, each of them answered at once. -/
def servedPages (c : Client) (frame : Envelope.Frame) (f : Nat → DomainPage) (n : Nat) :
    List Event :=
  (List.range' 1 n).flatMap fun page => c.served (.domainPage page) ((f page).response frame)

variable {frame : Envelope.Frame} {f : Nat → DomainPage} {n : Nat}

theorem servedPages_succ (c : Client) (frame : Envelope.Frame) (f : Nat → DomainPage) (n : Nat) :
    c.servedPages frame f (n + 1) =
      c.servedPages frame f n ++ c.served (.domainPage (n + 1)) ((f (n + 1)).response frame) := by
  rw [servedPages, List.range'_1_concat, List.flatMap_append, Nat.add_comm 1 n, List.flatMap_cons,
    List.flatMap_nil, List.append_nil]
  rfl

theorem exists_page_of_mem_traffic {c : Client} {x : Request × Connection.Sent}
    (h : x ∈ traffic (c.servedPages frame f n)) :
    ∃ page, x = (.ofCommand (.domainPage page) c.credentials c.endpoint,
      .answered (.ok ((f page).response frame))) := by
  induction n with
  | zero => cases h
  | succ n ih =>
    rw [servedPages_succ, traffic_append, List.mem_append] at h
    rcases h with before | last
    · exact ih before
    · exact ⟨n + 1, List.mem_singleton.1 last⟩

theorem serves_servedPages (c : Client) (frame : Envelope.Frame)
    (reported : ∀ page, (f page).IsReported) (n : Nat) : Serves f (c.servedPages frame f n) := by
  intro page request r p sent asks holds
  obtain ⟨page', same⟩ := exists_page_of_mem_traffic sent
  cases same
  obtain rfl := asks.unique (Request.asksPage_ofCommand page' c.credentials c.endpoint)
  exact holds.unique (holds_response frame (reported page))

/-- An answer that holds no page may come to any request. -/
theorem serves_served_of_unread (c : Client) (command : Command) {r : Response} (o : Outcome)
    (unread : ∀ p, ¬DomainPage.Holds r p) : Serves f (c.served command r o) := by
  intro page request r' p sent _ holds
  cases List.mem_singleton.1 sent
  exact absurd holds (unread p)

theorem answered_servedPages {c : Client} (able : 0 < c.waits) (hpos : 0 < c.plan.maxAttempts)
    (frame : Envelope.Frame) (reported : ∀ page, (f page).IsReported) (n : Nat) :
    c.Answered 1 (c.servedPages frame f n) (firstPages f n) := by
  induction n with
  | zero => exact .nil 1
  | succ n ih =>
    obtain ⟨envelope, decoded, held⟩ := holds_response frame (reported (n + 1))
    rw [servedPages_succ, firstPages_succ]
    refine answered_append_iff.2 ⟨_, _, rfl, ih, answered_singleton_iff.2 ?_⟩
    rw [length_firstPages, Nat.add_comm 1]
    exact turn_of_runs hpos (runs_served able decoded held)

end Client

/-! ## Accounts that are served in slices -/

namespace DomainPage

/-- Page `page` of a list of domains of which each page holds `size`. -/
def slice (all : List Domain) (size page : Nat) : DomainPage :=
  ⟨(all.drop ((page - 1) * size)).take size, all.length⟩

variable {all : List Domain} {size : Nat}

theorem join_slices (all : List Domain) (size n : Nat) :
    join (firstPages (slice all size) n) = all.take (n * size) := by
  induction n with
  | zero => rw [Nat.zero_mul, List.take_zero, firstPages_zero, join_nil]
  | succ n ih =>
    rw [join_firstPages_succ, ih, Nat.succ_mul, List.take_add]
    rfl

theorem isLast_slice_iff (hsize : 0 < size) (small : all.length ≤ Decimal.max64) (n : Nat) :
    (slice all size (n + 1)).IsLast (join (firstPages (slice all size) n)) ↔
      all.length ≤ size * (n + 1) := by
  have found : join (firstPages (slice all size) n) ++ (slice all size (n + 1)).domains =
      all.take (size * (n + 1)) := by
    rw [Nat.mul_comm, ← join_slices, join_firstPages_succ]
  have empty : (slice all size (n + 1)).domains = [] ↔ all.length ≤ size * n := by
    show (all.drop (n * size)).take size = [] ↔ _
    rw [← List.length_eq_zero_iff, List.length_take, List.length_drop, Nat.mul_comm]
    omega
  have total : min (slice all size (n + 1)).total Decimal.max64 = all.length :=
    Nat.min_eq_left small
  rw [IsLast, found, empty, total, List.length_take, Nat.mul_succ]
  omega

/-- Pages that are full but for the last one are as many as are needed, and one at least. -/
theorem endsAfter_slice (hsize : 0 < size) (small : all.length ≤ Decimal.max64) :
    EndsAfter (slice all size) (max 1 (all.length ⌈/⌉ size) - 1) := by
  have enough (n : Nat) : all.length ≤ size * n ↔ all.length ⌈/⌉ size ≤ n :=
    (ceilDiv_le_iff_le_mul hsize).symm
  have pending (n : Nat) (h : n < max 1 (all.length ⌈/⌉ size)) :
      Pending [] (firstPages (slice all size) n) := by
    induction n with
    | zero => trivial
    | succ n ih =>
      refine pending_firstPages_succ_iff.2 ⟨ih (by omega), ?_⟩
      rw [isLast_slice_iff hsize small, enough]
      omega
  refine ⟨pending _ (by omega), ?_⟩
  rw [isLast_slice_iff hsize small, enough]
  omega

theorem isReported_slice (id : ∀ d ∈ all, d.id ≤ Decimal.max64) (total : all.length ≤ Decimal.max64)
    (size page : Nat) : (slice all size page).IsReported :=
  ⟨fun d hd => id d (List.mem_of_mem_drop (List.mem_of_mem_take hd)), total⟩

end DomainPage

namespace Client

open DomainPage

section

variable {α : Type} [Quantity α] {s : Settings α} (hs : s.fault? = none) (draw : Nat → α)
  (waits : Nat)
include hs

/-- An account of fewer than 2³² domains, of which the registrar shows `size` on each page, is
listed as it is, with a command for each page and one for an empty account. A page that fails, also
because it cannot be read, is the end of the listing and its failure the answer. -/
theorem runs_listDomains_of_slices {all : List Domain} (small : all.length ≤ Decimal.max32)
    {size : Nat} (hsize : 0 < size) :
    let c : Client := .ofSettings s draw waits
    let count := max 1 (all.length ⌈/⌉ size)
    let pages := firstPages (slice all size) count
    join pages = all ∧ count ≤ Decimal.max32 ∧
      ∀ events, Serves (slice all size) events →
        (∀ answer, Runs c.listDomains.run events answer ↔ c.Lists pages events answer) ∧
        ∀ found, Runs c.listDomains.run events (.ok found) →
          found = all ∧ commands events = count := by
  intro c count pages
  have hpos : 0 < c.plan.maxAttempts := s.maxAttempts_pos hs
  have fits : all.length ≤ Decimal.max64 := Nat.le_trans small (by decide)
  have few : all.length ⌈/⌉ size ≤ all.length :=
    (ceilDiv_le_iff_le_mul hsize).2 (Nat.le_mul_of_pos_left _ hsize)
  have one : 1 ≤ count := Nat.le_max_left ..
  have joined : join pages = all := by
    have reach : all.length ≤ size * count :=
      (ceilDiv_le_iff_le_mul hsize).1 (Nat.le_max_right ..)
    rw [join_slices, List.take_of_length_le (by rwa [Nat.mul_comm])]
  refine ⟨joined, Nat.max_le.2 ⟨by decide, Nat.le_trans few small⟩, fun events serves => ?_⟩
  have lists (answer : Except Failure (List Domain)) :
      Runs c.listDomains.run events answer ↔ c.Lists pages events answer := by
    have h : Runs c.listDomains.run events answer ↔ _ :=
      runs_listDomains_iff hpos (endsAfter_slice hsize fits) serves
    rwa [Nat.sub_add_cancel one] at h
  refine ⟨lists, fun found run => ?_⟩
  cases (lists _).1 run with
  | whole answered => exact ⟨joined, answered.commands_eq.trans length_firstPages⟩

end

/-- Three domains on pages of two; and the same account, the second page of which holds no list. -/
theorem runs_listDomains_of_three :
    let s : Settings ℚ := .new ⟨"user", "key", "user", "10.0.0.1"⟩
    let c : Client := .ofSettings s fun _ => 0
    let frame : Envelope.Frame :=
      ⟨.lines, "xml.response", "namecheap.domains.getList", "SERVER-TEST", "0.01"⟩
    let entry (id : Nat) (name : String) : Domain :=
      ⟨id, name, "user", "01/02/2024", "01/02/2025", false, true, false, "ENABLED", false, true⟩
    let all := [entry 1 "a.com", entry 2 "b.com", entry 3 "<c> & \"d\""]
    let events := c.servedPages frame (slice all 2) 2
    let empty := "<ApiResponse Status=\"OK\"><CommandResponse/></ApiResponse>"
    let events' := c.servedPages frame (slice all 2) 1 ++
      c.served (.domainPage 2) ⟨200, empty, none⟩ .failure
    let detail := "invalid command response: missing field \x60DomainGetListResult\x60"
    s.fault? = none ∧ all.length ≤ Decimal.max32 ∧ 0 < 2 ∧
    (Serves (slice all 2) events ∧ Runs c.listDomains.run events (.ok all)) ∧
      Serves (slice all 2) events' ∧
        Runs c.listDomains.run events' (.error (.protocolError detail)) := by
  intro s c frame entry all events empty events' detail
  have valid : s.fault? = none := by decide +kernel
  have hpos : 0 < c.plan.maxAttempts := by decide
  have able : 0 < c.waits := by decide
  have small : all.length ≤ Decimal.max32 := by decide
  have reported : ∀ page, (slice all 2 page).IsReported :=
    isReported_slice (by decide) (by decide) 2
  have serves := serves_servedPages c frame reported 2
  have answered := answered_servedPages able hpos frame reported
  have count : max 1 (all.length ⌈/⌉ 2) = 2 := by decide
  obtain ⟨joined, -, lists⟩ :=
    runs_listDomains_of_slices valid (fun _ => 0) _ small Nat.two_pos
  rw [count] at joined lists
  have run := ((lists events serves).1 _).2 (.whole (answered 2))
  rw [joined] at run
  have decoded : Envelope.decode empty 200 = .ok ⟨none, [], empty⟩ := by decide +kernel
  have unread : (⟨none, [], empty⟩ : Envelope).payload DomainPage.fields.reader =
      .error (.malformed detail) := by decide +kernel
  have serves' : Serves (slice all 2) events' := by
    refine serves_append_iff.2 ⟨serves_servedPages c frame reported 1, ?_⟩
    refine serves_served_of_unread c _ _ ?_
    rintro p ⟨envelope, decoded', held⟩
    cases decoded.symm.trans decoded'
    cases unread.symm.trans held
  have reads : read (·.payload DomainPage.fields.reader) ⟨200, empty, none⟩ =
      .error (.malformed detail) := by
    rw [read, decoded]
    exact unread
  have failed : c.Turn 2 _ _ := turn_of_runs hpos (runs_declined able reads rfl)
  refine ⟨valid, small, Nat.two_pos, ⟨serves, run⟩, serves', ?_⟩
  exact ((lists events' serves').1 _).2 (.cut 1 Nat.one_lt_two (answered 1) failed)

section

variable {α : Type} [Quantity α] {s : Settings α} (hs : s.fault? = none) (draw : Nat → α)
  (waits : Nat)
include hs

/-- Whatever pages the registrar serves, if none of them speaks of more than `total` domains, a
listing asks for no more than that many, and for one at least. -/
theorem exists_lists_of_bounded {f : Nat → DomainPage} {total : Nat}
    (bounded : ∀ page, (f page).total ≤ total) (small : total ≤ Decimal.max32) :
    let c : Client := .ofSettings s draw waits
    ∃ count, 1 ≤ count ∧ count ≤ max 1 total ∧ count ≤ Decimal.max32 ∧
      ∀ events answer, Serves f events →
        (Runs c.listDomains.run events answer ↔ c.Lists (firstPages f count) events answer) ∧
        (Runs c.listDomains.run events answer → commands events ≤ count) := by
  intro c
  have hpos : 0 < c.plan.maxAttempts := s.maxAttempts_pos hs
  obtain ⟨n, few, ends⟩ := exists_endsAfter bounded
  have fits : n + 1 ≤ Decimal.max32 :=
    Nat.le_trans few (Nat.max_le.2 ⟨by decide, small⟩)
  refine ⟨n + 1, Nat.le_add_left 1 n, few, fits, fun events answer serves => ?_⟩
  have lists : Runs c.listDomains.run events answer ↔ c.Lists (firstPages f (n + 1)) events answer :=
    runs_listDomains_iff hpos ends serves
  refine ⟨lists, fun run => ?_⟩
  have counted := (lists.1 run).commands_le
  rwa [length_firstPages] at counted

end

/-- A registrar that shows the same domain again and speaks of fewer domains then. -/
theorem exists_lists_of_repeating :
    let s : Settings ℚ := .new ⟨"user", "key", "user", "10.0.0.1"⟩
    let c : Client := .ofSettings s fun _ => 0
    let frame : Envelope.Frame :=
      ⟨.lines, "xml.response", "namecheap.domains.getList", "SERVER-TEST", "0.01"⟩
    let entry : Domain :=
      ⟨1, "a.com", "user", "01/02/2024", "01/02/2025", false, true, false, "ENABLED", false, true⟩
    let f (page : Nat) : DomainPage := ⟨[entry], if page = 1 then 3 else 2⟩
    let events := c.servedPages frame f 2
    s.fault? = none ∧ (∀ page, (f page).total ≤ 3) ∧ 3 ≤ Decimal.max32 ∧ Serves f events ∧
      ∃ count, 1 ≤ count ∧ count ≤ max 1 3 ∧ count ≤ Decimal.max32 ∧
        (Runs c.listDomains.run events (.ok [entry, entry]) ↔
          c.Lists (firstPages f count) events (.ok [entry, entry])) ∧
        Runs c.listDomains.run events (.ok [entry, entry]) ∧ commands events ≤ count := by
  intro s c frame entry f events
  have valid : s.fault? = none := by decide +kernel
  have hpos : 0 < c.plan.maxAttempts := by decide
  have bounded (page : Nat) : (f page).total ≤ 3 := by
    show (if page = 1 then 3 else 2) ≤ 3
    split <;> decide
  have reported (page : Nat) : (f page).IsReported :=
    ⟨by simp only [f, List.mem_singleton, forall_eq]; decide,
      Nat.le_trans (bounded page) (by decide)⟩
  have serves := serves_servedPages c frame reported 2
  have ends : EndsAfter f 1 := ⟨⟨by decide +kernel, trivial⟩, by decide +kernel⟩
  have run := (runs_listDomains_iff hpos ends serves).2
    (.whole (answered_servedPages (by decide) hpos frame reported 2))
  obtain ⟨count, one, few, fits, lists⟩ :=
    exists_lists_of_bounded valid (fun _ => 0) _ bounded (by decide)
  obtain ⟨iff, counted⟩ := lists events _ serves
  exact ⟨valid, bounded, by decide, serves, count, one, few, fits, iff, run, counted run⟩

theorem endsAfter_single (a : Domain) {n : Nat} (h : n < Decimal.max64) :
    EndsAfter (fun _ => ⟨[a], n + 1⟩) n := by
  have isLast_iff (k : Nat) : (⟨[a], n + 1⟩ : DomainPage).IsLast
      (join (firstPages (fun _ => ⟨[a], n + 1⟩) k)) ↔ n ≤ k := by
    have length : (join (firstPages (fun _ => (⟨[a], n + 1⟩ : DomainPage)) k)).length = k := by
      induction k with
      | zero => rfl
      | succ k ih =>
        rw [join_firstPages_succ, List.length_append, ih, List.length_singleton]
    rw [IsLast, List.length_append, length, List.length_singleton, Nat.min_eq_left h]
    simp
  refine ⟨?_, (isLast_iff n).2 (Nat.le_refl n)⟩
  have pending (k : Nat) (few : k ≤ n) :
      Pending [] (firstPages (fun _ => ⟨[a], n + 1⟩) k) := by
    induction k with
    | zero => trivial
    | succ k ih =>
      refine pending_firstPages_succ_iff.2 ⟨ih (Nat.le_of_succ_le few), ?_⟩
      rw [isLast_iff]
      omega
  exact pending n (Nat.le_refl n)

/-- A registrar shows 2³² domains one by one: when the page with the largest number of 32 bits is
answered, the listing goes on with another command. -/
theorem listing_outgrows_32_bits :
    let s : Settings ℚ := .new ⟨"user", "key", "user", "10.0.0.1"⟩
    let c : Client := .ofSettings s fun _ => 0
    let entry : Domain :=
      ⟨1, "a.com", "user", "01/02/2024", "01/02/2025", false, true, false, "ENABLED", false, true⟩
    let f (_ : Nat) : DomainPage := ⟨[entry], 4294967296⟩
    4294967296 ≤ Decimal.max64 ∧ (∀ page, (f page).total ≤ 4294967296) ∧
      ∃ events next, Serves f events ∧ c.Answered 1 events (firstPages f Decimal.max32) ∧
        Pending [] (firstPages f Decimal.max32) ∧
        Reaches c.listDomains.run events (.ask (.other .enter) next) := by
  intro s c entry f
  let frame : Envelope.Frame :=
    ⟨.lines, "xml.response", "namecheap.domains.getList", "SERVER-TEST", "0.01"⟩
  have reported (page : Nat) : (f page).IsReported := ⟨by decide, by decide⟩
  have serves := serves_servedPages c frame reported Decimal.max32
  have answered : c.Answered 1 _ _ :=
    answered_servedPages (by decide) (by decide) frame reported Decimal.max32
  have pending : Pending [] (firstPages f Decimal.max32) :=
    (endsAfter_single entry (n := Decimal.max32) (by decide)).pending
  have reached := answered.reaches pending
  obtain ⟨next, goes_on⟩ := exists_run_domainsFrom c (1 + (firstPages f Decimal.max32).length)
    ([] ++ join (firstPages f Decimal.max32))
  rw [goes_on] at reached
  exact ⟨by decide, fun _ => Nat.le_refl _, _, next, serves, answered, pending, reached⟩

end Client

end Registrar
