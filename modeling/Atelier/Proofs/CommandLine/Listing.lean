/-
What the command that lists published semantics asks for, and what it prints.

The command loads pages, one after the other (`Catalog.Loading`), and prints a line for each entry
in the order of the names.  Sorting leaves entries of the same name in order
(`Entry.filter_sortByName`), and no other list has the same entries in that order
(`Entry.eq_of_inOrder`).  So what is printed follows from what is loaded (`lists_what_is_loaded`).
-/
import Atelier.Proofs.Catalog.Loading
import Atelier.Proofs.CommandLine.Steps

namespace Atelier

/-! ## Entries in the order of their names -/

namespace Entry

/-- Whether two entries can stand one before the other. -/
def inOrder (a b : Entry) : Bool :=
  !(b.name < a.name)

lemma inOrder_iff {a b : Entry} : inOrder a b = true ↔ a.name ≤ b.name := by
  rw [inOrder, Bool.not_eq_true', decide_eq_false_iff_not, String.not_lt]

lemma inOrder_trans (a b c : Entry) (hab : inOrder a b = true) (hbc : inOrder b c = true) :
    inOrder a c = true :=
  inOrder_iff.2 (String.le_trans (inOrder_iff.1 hab) (inOrder_iff.1 hbc))

lemma inOrder_total (a b : Entry) : (inOrder a b || inOrder b a) = true := by
  rw [Bool.or_eq_true, inOrder_iff, inOrder_iff]
  exact String.le_total a.name b.name

lemma perm_sortByName (entries : List Entry) : (sortByName entries).Perm entries :=
  List.mergeSort_perm entries inOrder

lemma pairwise_sortByName (entries : List Entry) :
    (sortByName entries).Pairwise fun a b => a.name ≤ b.name :=
  (List.pairwise_mergeSort inOrder_trans inOrder_total entries).imp inOrder_iff.1

/-- Entries of the same name stay in order. -/
lemma filter_sortByName (entries : List Entry) (name : String) :
    (sortByName entries).filter (·.name = name) = entries.filter (·.name = name) := by
  have hsame : (entries.filter (·.name = name)).Pairwise (inOrder · ·) := by
    refine List.pairwise_of_forall_mem_list fun a ha b hb => ?_
    obtain ⟨-, hname⟩ := List.mem_filter.1 ha
    obtain ⟨-, hname'⟩ := List.mem_filter.1 hb
    have hname : a.name = b.name := (of_decide_eq_true hname).trans (of_decide_eq_true hname').symm
    exact inOrder_iff.2 (hname ▸ String.le_refl a.name)
  have hsorted : (entries.filter (·.name = name)).Sublist (sortByName entries) :=
    List.sublist_mergeSort inOrder_trans inOrder_total hsame List.filter_sublist
  -- So they are among those of that name, and there are as many of these.
  have hsublist := hsorted.filter (·.name = name)
  rw [List.filter_filter] at hsublist
  simp only [Bool.and_self] at hsublist
  have hlength := ((perm_sortByName entries).filter (·.name = name)).length_eq
  exact (hsublist.eq_of_length hlength.symm).symm

lemma mem_iff_of_filter {l k : List Entry}
    (h : ∀ name, l.filter (·.name = name) = k.filter (·.name = name)) (e : Entry) :
    e ∈ l ↔ e ∈ k := by
  have hname := congrArg (e ∈ ·) (h e.name)
  simpa using hname

/-- A list in the order of the names is determined by what it has of each name. -/
lemma eq_of_inOrder {l k : List Entry} (hl : l.Pairwise fun a b => a.name ≤ b.name)
    (hk : k.Pairwise fun a b => a.name ≤ b.name)
    (h : ∀ name, l.filter (·.name = name) = k.filter (·.name = name)) : l = k := by
  induction l generalizing k with
  | nil =>
    cases k with
    | nil => rfl
    | cons b k => cases (mem_iff_of_filter h b).2 List.mem_cons_self
  | cons a l ih =>
    cases k with
    | nil => cases (mem_iff_of_filter h a).1 List.mem_cons_self
    | cons b k =>
      have hmem := mem_iff_of_filter h
      obtain ⟨hfirst, hltail⟩ := List.pairwise_cons.1 hl
      obtain ⟨hfirst', hktail⟩ := List.pairwise_cons.1 hk
      -- Both names come first, and so they are the same.
      have hle : a.name ≤ b.name := by
        rcases List.mem_cons.1 ((hmem b).2 List.mem_cons_self) with rfl | hb
        · exact String.le_refl _
        · exact hfirst b hb
      have hge : b.name ≤ a.name := by
        rcases List.mem_cons.1 ((hmem a).1 List.mem_cons_self) with rfl | ha
        · exact String.le_refl _
        · exact hfirst' a ha
      have hname : b.name = a.name := String.le_antisymm hge hle
      have hheads := h a.name
      rw [List.filter_cons_of_pos (by simp), List.filter_cons_of_pos (by simp [hname])] at hheads
      obtain rfl := (List.cons.inj hheads).1
      have hrest (name : String) : l.filter (·.name = name) = k.filter (·.name = name) := by
        have hfilter := h name
        by_cases hsame : a.name = name
        · rw [List.filter_cons_of_pos (by simp [hsame]),
            List.filter_cons_of_pos (by simp [hsame])] at hfilter
          exact (List.cons.inj hfilter).2
        · rwa [List.filter_cons_of_neg (by simp [hsame]),
            List.filter_cons_of_neg (by simp [hsame])] at hfilter
      rw [ih hltail hktail hrest]

end Entry

/-! ## The command -/

instance : Host (StateM Visit) where
  setting? _ := pure none
  readBytes _ := pure (.error "")
  writeText _ _ := pure (.error "")
  printLine text := modify fun s => { s with printed := s.printed ++ [text] }
  fetch := Visit.ask

namespace CommandLine

open Catalog

lemma entryLine_eq (e : Entry) :
    entryLine e = toString e.id ++ "\t" ++ e.name ++ ": [" ++ e.type ++ "]" := by
  simp only [entryLine, Entry.label, String.append_assoc]

lemma run_print (text : String) (s : Visit) :
    (print (m := StateM Visit) text).run.run s =
      (.ok (), { s with printed := s.printed ++ [text] }) := rfl

lemma run_forM_print (entries : List Entry) (s : Visit) :
    (entries.forM fun e => print (m := StateM Visit) (entryLine e)).run.run s =
      (.ok (), { s with printed := s.printed ++ entries.map entryLine }) := by
  induction entries generalizing s with
  | nil =>
    rw [List.map_nil, List.append_nil]
    rfl
  | cons e entries ih =>
    refine (run_bind_of_ok (run_print (entryLine e) s)).trans ?_
    rw [ih, List.map_cons, List.append_assoc]
    rfl

/-- The catalog before the first page. -/
def opened (config : Config) (search : Option String) : Catalog :=
  (Catalog.new config.pageSize).setSearch (search.getD "")

/-- What the command comes to at a service that gives certain answers. -/
def visit (config : Config) (search : Option String) (pages : ℕ) (select : Option String)
    (answers : ℕ → Except FetchError String) : Except CommandError Unit × Visit :=
  (catalog (m := StateM Visit) config search pages select).run.run { answers }

section

variable {config : Config} {search : Option String} {pages : ℕ} {select : Option String}
  {answers : ℕ → Except FetchError String} {s : Visit} {c : Catalog}

/-- The command ends at the first error. -/
lemma visit_of_error {e : CatalogError}
    (h : ((opened config search).loadPages Visit.ask config.backendUrl pages).run { answers } =
      ((c, .error e), s)) :
    visit config search pages select answers = (.error (.catalog e), s) := by
  have hload := run_liftM ((opened config search).loadPages Visit.ask config.backendUrl pages)
    { answers }
  rw [h] at hload
  cases search <;> exact run_bind_of_ok hload

/-- Without an error, what is loaded is listed. -/
lemma visit_of_ok
    (h : ((opened config search).loadPages Visit.ask config.backendUrl pages).run { answers } =
      ((c, .ok ()), s)) :
    visit config search pages none answers =
      (.ok (), { s with printed := s.printed ++ (Entry.sortByName c.entries).map entryLine }) := by
  have hload := run_liftM ((opened config search).loadPages Visit.ask config.backendUrl pages)
    { answers }
  rw [h] at hload
  cases search <;> exact (run_bind_of_ok hload).trans (run_forM_print _ s)

/-- Without an error, what is selected is printed, if anything is. -/
lemma visit_of_select (value : String)
    (h : ((opened config search).loadPages Visit.ask config.backendUrl pages).run { answers } =
      ((c, .ok ()), s)) :
    visit config search pages (some value) answers =
      match (c.select value).2 with
      | .ok text => (.ok (), { s with printed := s.printed ++ [text] })
      | .error e => (.error (.catalog e), s) := by
  have hload := run_liftM ((opened config search).loadPages Visit.ask config.backendUrl pages)
    { answers }
  rw [h] at hload
  have hnext : (orError (m := StateM Visit) .catalog (c.select value).2 >>= print).run.run s =
      match (c.select value).2 with
      | .ok text => (.ok (), { s with printed := s.printed ++ [text] })
      | .error e => (.error (.catalog e), s) := by
    cases (c.select value).2 <;> rfl
  cases search <;> exact (run_bind_of_ok hload).trans hnext

/-- Nothing is asked for once the pages are loaded. -/
lemma asked_visit {result : Except CatalogError Unit}
    (h : ((opened config search).loadPages Visit.ask config.backendUrl pages).run { answers } =
      ((c, result), s)) :
    (visit config search pages select answers).2.asked = s.asked := by
  cases result with
  | error e => rw [visit_of_error h]
  | ok =>
    cases select with
    | none => rw [visit_of_ok h]
    | some value =>
      rw [visit_of_select value h]
      cases (c.select value).2 <;> rfl

/-- The first page is asked for even if none is wanted. -/
lemma loadPages_max (c : Catalog) (base : String) (pages : ℕ) :
    c.loadPages Visit.ask base pages = c.loadPages Visit.ask base (pages - 1 + 1) := rfl

/-- Without a URL nothing is asked for. -/
lemma visit_of_serviceUrl_error {e : CatalogError}
    (h : serviceUrl config.backendUrl route = .error e) :
    visit config search pages select answers = (.error (.catalog e), { answers }) := by
  have hurl : (opened config search).requestUrl config.backendUrl = .error e := by
    rw [requestUrl, h]
    rfl
  refine visit_of_error (c := opened config search) ?_
  rw [loadPages_max]
  exact run_loadPages_of_error _ (run_loadNextPage_of_error _ _ _ hurl)

end

/-- Whatever a service answers, the command asks for the pages with the numbers from one on, each
of them once and at most as many as it is told to but one at least, until an answer brings no page
or nothing is left to load.  If all of them came in, it prints a line for each entry on them, once,
in the order of the names, and entries of the same name in the order in which they came.  A line has
the number of the entry, its name, and its type in brackets. -/
theorem lists_what_is_loaded (config : Config) (search select : Option String) (pages : UInt32)
    (answers : ℕ → Except FetchError String) :
    let r := visit config search pages.toNat select answers
    let size := max config.pageSize 1
    (∀ e, serviceUrl config.backendUrl route = .error e →
      r.1 = .error (.catalog e) ∧ r.2.asked = [] ∧ r.2.printed = []) ∧
    ∀ service, serviceUrl config.backendUrl route = .ok service →
      ∃ last result, Loading answers 0 (max 1 pages.toNat) last result ∧
        r.2.asked = (List.range (last + 1)).map (pageRequest service (search.getD "") size) ∧
        (∃ others, r.2.asked.map Url.fields = (List.range (last + 1)).map fun i =>
          others ++ [("pageNumber=" ++ toString (i + 1)).toList,
            ("pageSize=" ++ toString size).toList]) ∧
        (∀ e, result = .error e → r.1 = .error (.catalog e) ∧ r.2.printed = []) ∧
        (result = .ok () → select = none →
          r.1 = .ok () ∧ ∃ listed : List Entry,
            r.2.printed = listed.map (fun e =>
              toString e.id ++ "\t" ++ e.name ++ ": [" ++ e.type ++ "]") ∧
            listed.Perm (loaded answers (last + 1)) ∧
            listed.Pairwise (fun a b => a.name ≤ b.name) ∧
            ∀ name, listed.filter (·.name = name) =
              (loaded answers (last + 1)).filter (·.name = name)) := by
  intro r size
  constructor
  · intro e hservice
    have hvisit : r = _ := visit_of_serviceUrl_error hservice
    rw [hvisit]
    exact ⟨rfl, rfl, rfl⟩
  · intro service hservice
    have hpages := pages.toNat_lt
    obtain ⟨last, c, result, hloading, hrun, hentries⟩ :=
      (Holds.setSearch_new answers (search.getD "") config.pageSize).run_loadPages
        (pages.toNat - 1) (by simp only [UInt32.size]; omega) hservice
    rw [show 0 + (pages.toNat - 1) + 1 = max 1 pages.toNat by omega] at hloading
    have hload : ((opened config search).loadPages Visit.ask config.backendUrl
        pages.toNat).run { answers } =
        ((c, result), asking answers service (search.getD "") size (last + 1)) := hrun
    have hasked : r.2.asked =
        (List.range (last + 1)).map (pageRequest service (search.getD "") size) :=
      asked_visit hload
    refine ⟨last, result, hloading, hasked, ?_, ?_, ?_⟩
    · refine ⟨service.fields ++ (if (search.getD "").isEmpty then [] else
        [Url.writtenField ("search", search.getD "")]), ?_⟩
      rw [hasked, List.map_map]
      refine List.map_congr_left fun i _ => ?_
      rw [Function.comp_apply, fields_pageRequest, List.append_assoc]
    · rintro e rfl
      have hvisit : r = _ := visit_of_error hload
      rw [hvisit]
      exact ⟨rfl, rfl⟩
    · rintro rfl rfl
      have hvisit : r = _ := visit_of_ok hload
      rw [hvisit, ← hentries rfl]
      refine ⟨rfl, Entry.sortByName c.entries, ?_, Entry.perm_sortByName _,
        Entry.pairwise_sortByName _, Entry.filter_sortByName _⟩
      exact List.map_congr_left fun e _ => entryLine_eq e

/-- The bodies of two pages with three entries together, each written as the list of its fields. -/
def twoPages : List String :=
  ["\x7b\"data\":[[2,\"b\",\"T\"],[3,\"a\",\"T\"]],\"totalCount\":9\x7d",
    "\x7b\"data\":[[1,\"a\",\"T\"]],\"totalCount\":3\x7d"]

/-- A service that has pages, and then fails. -/
def serving (bodies : List String) (i : ℕ) : Except FetchError String :=
  match bodies[i]? with
  | some body => .ok body
  | none => .error (.transport "gone")

lemma arrival_serving_zero : arrival (serving twoPages 0) =
    .ok { data := some [⟨2, "b", "T", .null⟩, ⟨3, "a", "T", .null⟩], total := 9 } := by
  have hparse : Envelope.parse? (Json.list? Entry.ofJson?) twoPages[0] =
      some { data := some [⟨2, "b", "T", .null⟩, ⟨3, "a", "T", .null⟩], total := 9 } := rfl
  have hbody : serving twoPages 0 = .ok twoPages[0] := rfl
  rw [hbody, arrival_of_page hparse]
  rfl

lemma arrival_serving_one : arrival (serving twoPages 1) =
    .ok { data := some [⟨1, "a", "T", .null⟩], total := 3 } := by
  have hparse : Envelope.parse? (Json.list? Entry.ofJson?) twoPages[1] =
      some { data := some [⟨1, "a", "T", .null⟩], total := 3 } := rfl
  have hbody : serving twoPages 1 = .ok twoPages[1] := rfl
  rw [hbody, arrival_of_page hparse]
  rfl

/-- The total shrinks to what is there once the second page has come. -/
theorem lists_what_is_loaded_two_pages :
    let r := visit { backendUrl := "http://[::1]:4000", pageSize := 2 } none (UInt32.toNat 5) none
      (serving twoPages)
    r.1 = .ok () ∧
      (∃ others, r.2.asked.map Url.fields =
        [others ++ ["pageNumber=1".toList, "pageSize=2".toList],
          others ++ ["pageNumber=2".toList, "pageSize=2".toList]]) ∧
      r.2.printed = ["3\ta: [T]", "1\ta: [T]", "2\tb: [T]"] := by
  have hvisit := lists_what_is_loaded { backendUrl := "http://[::1]:4000", pageSize := 2 } none none
    5 (serving twoPages)
  -- Whatever the command comes to, this is all that is used of it.
  generalize visit _ none (UInt32.toNat 5) none (serving twoPages) = r at hvisit ⊢
  obtain ⟨-, hlists⟩ := hvisit
  obtain ⟨service, hservice⟩ : ∃ service, serviceUrl "http://[::1]:4000" route = .ok service :=
    ⟨_, rfl⟩
  obtain ⟨last, result, hloading, -, hfields, -, hlisted⟩ := hlists service hservice
  have hone : (loaded (serving twoPages) 1).length = 2 := by
    simp [loaded, brought, arrival_serving_zero]
  have htwo : loaded (serving twoPages) 2 =
      [⟨2, "b", "T", .null⟩, ⟨3, "a", "T", .null⟩, ⟨1, "a", "T", .null⟩] := by
    simp [loaded, List.range_succ, brought, arrival_serving_zero, arrival_serving_one]
  -- One page leaves something to load, and two do not.
  have hpositive : last ≠ 0 := by
    rintro rfl
    obtain ⟨e, he, -⟩ | ⟨page, hpage, -, henough⟩ := hloading.stops
    · cases he.symm.trans arrival_serving_zero
    · cases hpage.symm.trans arrival_serving_zero
      have hpages : UInt32.toNat 5 = 5 := rfl
      rw [hone, hpages] at henough
      exact absurd henough (by decide)
  have hlast : ¬ 1 < last := by
    intro hlt
    obtain ⟨page, hpage, hmore⟩ := hloading.goes_on 1 (Nat.zero_le 1) hlt
    cases hpage.symm.trans arrival_serving_one
    rw [htwo] at hmore
    exact Nat.lt_irrefl 3 hmore
  obtain rfl : last = 1 := by omega
  obtain rfl : result = .ok () := by
    obtain ⟨e, he, -⟩ | ⟨page, -, hresult, -⟩ := hloading.stops
    · cases he.symm.trans arrival_serving_one
    · exact hresult
  obtain ⟨hok, listed, hprinted, -, hnames, hfilter⟩ := hlisted rfl rfl
  -- The order of the names, with what there is of each name, leaves one list.
  have hlist : listed = [⟨3, "a", "T", .null⟩, ⟨1, "a", "T", .null⟩, ⟨2, "b", "T", .null⟩] := by
    refine Entry.eq_of_inOrder hnames (by decide) fun name => ?_
    rw [hfilter, htwo]
    by_cases hname : "a" = name
    · subst hname
      rfl
    · simp [List.filter_cons, hname]
  rw [hlist] at hprinted
  exact ⟨hok, hfields, hprinted.trans (by decide)⟩

end CommandLine

end Atelier
