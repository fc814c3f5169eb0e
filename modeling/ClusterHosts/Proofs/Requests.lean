import ClusterHosts.Api.Listing
import ClusterHosts.Proofs.Paging
import Mathlib.Data.List.TakeWhile

/-! # Requests for pages

A target can be sent as it is written, and one request is made for each page
(`Listing.one_request_per_page`). -/

namespace ClusterHosts

/-! ## The targets of requests

Parameters are encoded, so that they can always be sent: whether a page of a list can be asked for
is a matter of its path alone (`isPathAndQuery_pageTarget`).
-/

/-! ### The first place of a character -/

namespace Text

section

variable {c : Char} {front : List Char} (absent : c ∉ front)

include absent

theorem forall_bne_of_notMem : ∀ other ∈ front, (other != c) = true := by
  intro other member
  rw [bne_iff_ne]
  rintro rfl
  exact absent member

/-- The part before the first place of a character. -/
theorem takeWhile_append_cons (back : List Char) :
    (front ++ c :: back).takeWhile (· != c) = front := by
  rw [List.takeWhile_append_of_pos (forall_bne_of_notMem absent),
    List.takeWhile_cons_of_neg (by simp), List.append_nil]

theorem dropWhile_append_cons (back : List Char) :
    (front ++ c :: back).dropWhile (· != c) = c :: back := by
  rw [List.dropWhile_append_of_pos (forall_bne_of_notMem absent),
    List.dropWhile_cons_of_neg (by simp)]

theorem takeWhile_of_notMem : front.takeWhile (· != c) = front :=
  List.takeWhile_eq_self_iff.2 (forall_bne_of_notMem absent)

theorem dropWhile_of_notMem : front.dropWhile (· != c) = [] :=
  List.dropWhile_eq_nil_iff.2 (forall_bne_of_notMem absent)

end

end Text

/-! ### Paths and what follows them -/

namespace ServerAddress

/-- Letters and digits can stand in a query. -/
theorem isQueryChar_of_isAlphanum {c : Char} (letterOrDigit : c.isAlphanum = true) :
    isQueryChar c = true := by
  have codes : ((65 ≤ c.toNat ∧ c.toNat ≤ 90) ∨ (97 ≤ c.toNat ∧ c.toNat ≤ 122)) ∨
      (48 ≤ c.toNat ∧ c.toNat ≤ 57) := by
    rcases Bool.or_eq_true_iff.1 letterOrDigit with letter | digit
    · rcases Bool.or_eq_true_iff.1 letter with upper | lower
      · exact .inl (.inl (of_decide_eq_true upper))
      · obtain ⟨first, last⟩ := Bool.and_eq_true_iff.1 lower
        exact .inl (.inr ⟨of_decide_eq_true first, of_decide_eq_true last⟩)
    · obtain ⟨first, last⟩ := Bool.and_eq_true_iff.1 digit
      exact .inr ⟨of_decide_eq_true first, of_decide_eq_true last⟩
  have apart : ∀ other ∈ ['"', '#', '<', '>'], c ≠ other := by
    rintro other member rfl
    simp only [List.mem_cons, List.not_mem_nil, or_false] at member
    rcases member with rfl | rfl | rfl | rfl <;> revert codes <;> decide
  have absent : ['"', '#', '<', '>'].contains c = false := by
    rw [Bool.eq_false_iff]
    intro found
    exact apart c (List.contains_iff_mem.1 found) rfl
  simp only [isQueryChar, absent, Bool.not_false, Bool.and_true, Bool.and_eq_true,
    decide_eq_true_eq, bne_iff_ne, ne_eq]
  omega

/-- A number sign cannot stand in a query. -/
theorem ne_of_isQueryChar {c : Char} (fits : isQueryChar c = true) : c ≠ '#' := by
  rintro rfl
  cases fits

/-- What follows a path follows it in the target, too, if there is no number sign. -/
theorem target_append {path more : String} (whole : '#' ∉ path.toList) (also : '#' ∉ more.toList)
    (address : ServerAddress) : address.target (path ++ more) = address.target path ++ more := by
  have both : '#' ∉ path.toList ++ more.toList := fun member =>
    (List.mem_append.1 member).elim whole also
  apply String.toList_inj.1
  simp only [target, String.toList_append, String.toList_ofList, Text.takeWhile_of_notMem both,
    Text.takeWhile_of_notMem whole, List.append_assoc]

/-- Parameters behind a path do not matter for whether it can be sent. -/
theorem isPathAndQuery_append (path : List Char) {parameters : List Char}
    (fit : ∀ c ∈ parameters, isQueryChar c = true) :
    isPathAndQuery (path ++ '?' :: parameters) = isPathAndQuery path := by
  by_cases numbered : '#' ∈ path
  · -- What counts ends before the parameters.
    obtain ⟨front, back, rfl, absent⟩ := List.eq_append_cons_of_mem numbered
    rw [List.append_assoc, List.cons_append]
    simp only [isPathAndQuery, Text.takeWhile_append_cons absent]
  · have unnumbered : '#' ∉ path ++ '?' :: parameters := by
      intro member
      rcases List.mem_append.1 member with member | member
      · exact numbered member
      · rcases List.mem_cons.1 member with same | member
        · cases same
        · exact ne_of_isQueryChar (fit '#' member) rfl
    simp only [isPathAndQuery, Text.takeWhile_of_notMem numbered,
      Text.takeWhile_of_notMem unnumbered]
    have all : parameters.all isQueryChar = true := List.all_eq_true.2 fit
    by_cases queried : '?' ∈ path
    · obtain ⟨front, query, rfl, absent⟩ := List.eq_append_cons_of_mem queried
      have mark : isQueryChar '?' = true := by decide
      rw [List.append_assoc, List.cons_append]
      simp [Text.takeWhile_append_cons absent, Text.dropWhile_append_cons absent, all, mark]
    · simp [Text.takeWhile_append_cons queried, Text.dropWhile_append_cons queried,
        Text.takeWhile_of_notMem queried, Text.dropWhile_of_notMem queried, all]

end ServerAddress

/-! ### Parameters -/

/-- An encoded character can stand in a query. -/
theorem isQueryChar_of_mem_encodedChar {c letter : Char} (member : letter ∈ encodedChar c) :
    ServerAddress.isQueryChar letter = true := by
  have hexadecimal : (List.range 256).all fun byte =>
      (Text.capitalHexadecimal 2 byte).all ServerAddress.isQueryChar := by
    decide +kernel
  unfold encodedChar at member
  split at member
  · obtain rfl := List.mem_singleton.1 member
    decide
  split at member
  · next _ plain =>
      obtain rfl := List.mem_singleton.1 member
      rcases plain with letterOrDigit | mark
      · exact ServerAddress.isQueryChar_of_isAlphanum letterOrDigit
      · have marks : ['*', '-', '.', '_'].all ServerAddress.isQueryChar := by decide
        exact List.all_eq_true.1 marks letter (List.contains_iff_mem.1 mark)
  · obtain ⟨byte, _, written⟩ := List.mem_flatMap.1 member
    rcases List.mem_cons.1 written with rfl | digit
    · decide
    · have digits := List.all_eq_true.1 hexadecimal byte.toNat (List.mem_range.2 byte.toNat_lt)
      exact List.all_eq_true.1 digits letter digit

theorem isQueryChar_of_mem_parameter {name value : String} {c : Char}
    (named : name.toList.all ServerAddress.isQueryChar = true)
    (member : c ∈ (parameter name value).toList) : ServerAddress.isQueryChar c = true := by
  simp only [parameter, String.toList_append, List.mem_append, String.toList_ofList,
    List.mem_flatMap] at member
  rcases member with ((sign | inside) | sign) | ⟨letter, _, encoded⟩
  · obtain rfl := List.mem_singleton.1 sign
    decide
  · exact List.all_eq_true.1 named c inside
  · obtain rfl := List.mem_singleton.1 sign
    decide
  · exact isQueryChar_of_mem_encodedChar encoded

theorem isQueryChar_of_mem_optionalParameter {name : String} {value : Option String} {c : Char}
    (named : name.toList.all ServerAddress.isQueryChar = true)
    (member : c ∈ (optionalParameter name value).toList) : ServerAddress.isQueryChar c = true := by
  cases value with
  | none => cases member
  | some value => exact isQueryChar_of_mem_parameter named member

/-- The parameters of a request for a page, as they follow the question mark. -/
def pageParameters (selector token : Option String) : String :=
  optionalParameter "labelSelector" selector ++
    (parameter "limit" (String.ofList (Text.decimal Page.size)) ++
      optionalParameter "continue" token)

/-- The parameters of a page can stand in a query. -/
theorem isQueryChar_of_mem_pageParameters {selector token : Option String} {c : Char}
    (member : c ∈ (pageParameters selector token).toList) : ServerAddress.isQueryChar c = true := by
  simp only [pageParameters, String.toList_append, List.mem_append] at member
  rcases member with selecting | limiting | continuing
  · exact isQueryChar_of_mem_optionalParameter (by decide) selecting
  · exact isQueryChar_of_mem_parameter (by decide) limiting
  · exact isQueryChar_of_mem_optionalParameter (by decide) continuing

/-- The target of a page is its path with the parameters behind a question mark. -/
theorem pageTarget_eq (path : String) (selector token : Option String) :
    pageTarget path selector token = path ++ ("?" ++ pageParameters selector token) := by
  simp only [pageTarget, pageParameters, String.append_assoc]

/-- Whether a page can be asked for is a matter of the path alone. -/
theorem isPathAndQuery_pageTarget (path : String) (selector token : Option String) :
    ServerAddress.isPathAndQuery (pageTarget path selector token).toList =
      ServerAddress.isPathAndQuery path.toList := by
  rw [pageTarget_eq, String.toList_append, String.toList_append]
  exact ServerAddress.isPathAndQuery_append _ fun _ => isQueryChar_of_mem_pageParameters

/-! ## One request for each page

Recorded servers note every request in the world, so that what is asked of them is part of what
comes of an action. A world with such notes is a world like any other, and recorded servers are
servers.

The reading of a list goes from page to page. It makes one request for each, which differs from the
others in its token only: there is none in the first request, and in each other one it is the token
of the page before (`Listing.one_request_per_page`).
-/

variable {σ : Type}

/-! ### Requests -/

/-- A request for a target, as it is sent to a server. -/
structure Request where
  address : ServerAddress
  target : String
  deriving DecidableEq

/-- A world with the requests that were sent in it so far. -/
structure Noted (σ : Type) where
  world : σ
  requests : List Request

namespace Http

/-- The servers, with every request noted before it is passed on. -/
def recorded (http : Http (StateM σ)) : Http (StateM (Noted σ)) where
  get address target := modifyGet fun noted =>
    let outcome := (http.get address target).run noted.world
    (outcome.1, ⟨outcome.2, noted.requests ++ [⟨address, target⟩]⟩)

/-- The answers to requests that are sent one after the other. -/
def inTurn (http : Http (StateM σ)) : List Request → StateM σ (List (Except String Response))
  | [] => pure []
  | request :: requests => do
      let answer ← http.get request.address request.target
      let answers ← http.inTurn requests
      pure (answer :: answers)

variable {http : Http (StateM σ)}

/-- A recorded server notes the request and answers as it would. -/
theorem run_recorded (address : ServerAddress) (target : String) (noted : Noted σ) :
    (http.recorded.get address target).run noted =
      let outcome := (http.get address target).run noted.world
      (outcome.1, ⟨outcome.2, noted.requests ++ [⟨address, target⟩]⟩) := rfl

/-- Requests are made one after the other. -/
theorem run_inTurn_cons (request : Request) (requests : List Request) (world : σ) :
    (http.inTurn (request :: requests)).run world =
      let first := (http.get request.address request.target).run world
      let rest := (http.inTurn requests).run first.2
      (first.1 :: rest.1, rest.2) := rfl

/-- Of requests that are served in turn the first is served first. -/
theorem exists_of_run_inTurn_cons {request : Request} {requests : List Request} {world after : σ}
    {answers : List (Except String Response)}
    (served : (http.inTurn (request :: requests)).run world = (answers, after)) :
    ∃ answer others between, answers = answer :: others ∧
      (http.get request.address request.target).run world = (answer, between) ∧
      (http.inTurn requests).run between = (others, after) := by
  rw [run_inTurn_cons] at served
  obtain ⟨rfl, rfl⟩ := Prod.mk.inj served
  exact ⟨_, _, _, rfl, rfl, rfl⟩

/-- The answers to requests in turn do not depend on the notes, which are the requests. -/
theorem run_inTurn_recorded (requests : List Request) (noted : Noted σ) :
    (http.recorded.inTurn requests).run noted =
      let outcome := (http.inTurn requests).run noted.world
      (outcome.1, ⟨outcome.2, noted.requests ++ requests⟩) := by
  induction requests generalizing noted with
  | nil =>
      rw [List.append_nil]
      rfl
  | cons request requests ih =>
      simp only [run_inTurn_cons, run_recorded, ih, List.append_assoc, List.singleton_append]

end Http

/-! ### Targets -/

/-- The request for a page of the objects at a path. -/
def pageRequest (address : ServerAddress) (path : String) (selector token : Option String) :
    Request :=
  ⟨address, address.target (pageTarget path selector token)⟩

/-- Requests for pages of one list differ in their tokens only. -/
theorem target_pageRequest {path : String} (whole : '#' ∉ path.toList) (address : ServerAddress)
    (selector token : Option String) :
    (pageRequest address path selector token).target =
      address.target path ++ ("?" ++ optionalParameter "labelSelector" selector ++ "&limit=500" ++
        optionalParameter "continue" token) := by
  have limit : parameter "limit" (String.ofList (Text.decimal Page.size)) = "&limit=500" := by
    decide
  have unnumbered : '#' ∉ ("?" ++ pageParameters selector token).toList := by
    rw [String.toList_append]
    intro member
    rcases List.mem_cons.1 member with same | member
    · cases same
    · exact ServerAddress.ne_of_isQueryChar (isQueryChar_of_mem_pageParameters member) rfl
  rw [pageRequest, pageTarget_eq, ServerAddress.target_append whole unnumbered, pageParameters,
    limit]
  simp only [String.append_assoc]

/-! ### Pages -/

namespace Page

/-- A page that others follow carries a token that is not empty. -/
def Continues (page : Page) : Prop := ∃ token, page.token = some token ∧ token ≠ ""

/-- A last page carries no token or an empty one. -/
def Ends (page : Page) : Prop := page.token = none ∨ page.token = some ""

variable {page : Page}

/-- A page that continues has the token of the next one. -/
theorem Continues.exists_next (continues : page.Continues) :
    ∃ next, page.next? = some next ∧ page.token = some next := by
  obtain ⟨token, carries, nonempty⟩ := continues
  refine ⟨token, ?_, carries⟩
  have kept : token.isEmpty = false := by simpa using nonempty
  rw [next?, carries, Option.filter_some, kept]
  rfl

theorem Ends.next?_eq (ends : page.Ends) : page.next? = none := by
  rcases ends with carries | carries
  · rw [next?, carries, Option.filter_none]
  · rw [next?, carries]
    rfl

end Page

namespace Listing

variable {http : Http (StateM σ)} {address : ServerAddress} {path : String}
  {selector : Option String}

/-- What comes of the requests for pages that others follow and for one page more, behind the
objects that are there already. -/
theorem run_readFrom_of_inTurn (sendable : ServerAddress.isPathAndQuery path.toList = true)
    (takes : address.takesPaths = true) {before : List Page} {outcome : Except ApiError Page}
    (continuing : ∀ page ∈ before, page.Continues) (ends : ∀ last, outcome = .ok last → last.Ends)
    (progress : Progress) {world after : σ} {answers : List (Except String Response)}
    (served : (http.inTurn ((progress.token :: before.map Page.token).map
      (pageRequest address path selector))).run world = (answers, after))
    (holds : answers.map Page.ofAnswer = before.map .ok ++ [outcome]) :
    (readFrom (fetchPage http address path selector) progress).run world =
      (outcome.map fun last => progress.items ++ (before ++ [last]).flatMap Page.items, after) := by
  have sent (token : Option String) :
      ServerAddress.isPathAndQuery (pageTarget path selector token).toList = true := by
    rw [isPathAndQuery_pageTarget, sendable]
  -- Each turn takes one answer and holds the token of its page for the next request.
  induction before generalizing progress world answers with
  | nil =>
      obtain ⟨answer, others, between, rfl, asked, rest⟩ := Http.exists_of_run_inTurn_cons served
      obtain ⟨rfl, rfl⟩ := Prod.mk.inj rest
      obtain rfl : Page.ofAnswer answer = outcome := List.singleton_inj.1 holds
      rw [run_readFrom, run_fetchPage_of_get (sent progress.token) takes asked]
      cases given : Page.ofAnswer answer with
      | error error => rfl
      | ok last =>
          simp only [(ends last given).next?_eq]
          rw [Except.map, List.nil_append, List.flatMap_singleton]
  | cons page before ih =>
      obtain ⟨next, continues, carries⟩ := (continuing page List.mem_cons_self).exists_next
      obtain ⟨answer, others, between, rfl, asked, rest⟩ := Http.exists_of_run_inTurn_cons served
      obtain ⟨first, holds⟩ := List.cons.inj holds
      rw [List.map_cons, carries] at rest
      rw [run_readFrom, run_fetchPage_of_get (sent progress.token) takes asked]
      simp only [first, continues]
      rw [ih (fun other member => continuing other (List.mem_cons_of_mem _ member))
        ⟨some next, progress.items ++ page.items⟩ rest holds]
      simp only [List.cons_append, List.flatMap_cons, List.append_assoc]

/-- No page is asked for where none can be. -/
theorem run_readPages_of_not_sendable
    (unsendable : ¬ (ServerAddress.isPathAndQuery path.toList = true ∧ address.takesPaths = true))
    (world : σ) :
    ∃ error, (readPages (fetchPage http address path selector)).run world =
      (.error error, world) := by
  have fails (error : ApiError) (unsent : ∀ target,
      ServerAddress.isPathAndQuery target.toList = ServerAddress.isPathAndQuery path.toList →
        (http.getJson address target).run world = (.error error, world)) :
      (readPages (fetchPage http address path selector)).run world = (.error error, world) := by
    refine run_readPages (.fails ?_)
    rw [fetchPage, run_bind, unsent _ (isPathAndQuery_pageTarget path selector none)]
    rfl
  by_cases sendable : ServerAddress.isPathAndQuery path.toList = true
  · have stuck : ¬ address.takesPaths = true := fun takes => unsendable ⟨sendable, takes⟩
    refine ⟨.noAnswer "buffer's worker closed unexpectedly", fails _ fun target same => ?_⟩
    rw [Http.getJson, same, sendable, Bool.eq_false_iff.2 stuck]
    rfl
  · refine ⟨.badTarget, fails _ fun target same => ?_⟩
    rw [Http.getJson, same, Bool.eq_false_iff.2 sendable]
    rfl

/-- **One request for each page.** Whatever the pages are that a server cuts a list into, where
every page but the last carries a token that is not empty, the list is read with one request for
each page: the first is made without a token and each other one with the token of the page before
it. What comes of it is the objects of all pages, in order. If instead of a page there is a
failure, it is what comes of the reading, and nothing more is asked. The requests have one target
but for their tokens, and no request is made if the target is none. -/
theorem one_request_per_page (http : Http (StateM σ)) (address : ServerAddress) (path : String)
    (selector : Option String) :
    let request := pageRequest address path selector
    let reading := readPages (fetchPage http address path selector)
    let recorded := readPages (fetchPage http.recorded address path selector)
    (ServerAddress.isPathAndQuery path.toList = true → address.takesPaths = true →
      ∀ before : List Page, (∀ page ∈ before, page.Continues) →
        let requests := (none :: before.map Page.token).map request
        ∀ world answers after, (http.inTurn requests).run world = (answers, after) →
          (∀ last : Page, last.Ends →
            answers.map Page.ofAnswer = (before ++ [last]).map .ok →
            reading.run world = (.ok ((before ++ [last]).flatMap Page.items), after) ∧
            ∀ noted, recorded.run ⟨world, noted⟩ =
              (.ok ((before ++ [last]).flatMap Page.items), ⟨after, noted ++ requests⟩)) ∧
          ∀ error, answers.map Page.ofAnswer = before.map .ok ++ [.error error] →
            reading.run world = (.error error, after) ∧
            ∀ noted, recorded.run ⟨world, noted⟩ = (.error error, ⟨after, noted ++ requests⟩)) ∧
    ('#' ∉ path.toList → ∀ token, request token = ⟨address, address.target path ++
      ("?" ++ optionalParameter "labelSelector" selector ++ "&limit=500" ++
        optionalParameter "continue" token)⟩) ∧
    (¬ (ServerAddress.isPathAndQuery path.toList = true ∧ address.takesPaths = true) →
      ∀ noted, ∃ error, recorded.run noted = (.error error, noted)) := by
  intro request reading recorded
  refine ⟨?_, ?_, ?_⟩
  · intro sendable takes before continuing requests world answers after served
    have comes {outcome : Except ApiError Page} (ends : ∀ last, outcome = .ok last → last.Ends)
        (holds : answers.map Page.ofAnswer = before.map .ok ++ [outcome]) :
        let objects := outcome.map fun last => (before ++ [last]).flatMap Page.items
        reading.run world = (objects, after) ∧
          ∀ noted, recorded.run ⟨world, noted⟩ = (objects, ⟨after, noted ++ requests⟩) := by
      constructor
      · exact run_readFrom_of_inTurn sendable takes continuing ends {} served holds
      · intro noted
        have noting : (http.recorded.inTurn requests).run ⟨world, noted⟩ =
            (answers, ⟨after, noted ++ requests⟩) := by
          rw [Http.run_inTurn_recorded, served]
        exact run_readFrom_of_inTurn sendable takes continuing ends {} noting holds
    constructor
    · intro last ends holds
      rw [List.map_append, List.map_singleton] at holds
      refine comes ?_ holds
      rintro page ⟨⟩
      exact ends
    · intro error holds
      refine comes ?_ holds
      rintro page ⟨⟩
  · intro whole token
    rw [← target_pageRequest whole]
    rfl
  · intro unsendable noted
    exact run_readPages_of_not_sendable unsendable noted

/-- A server that gives prepared answers, one after the other. -/
def prepared : Http (StateM (List (Except String Response))) where
  get _ _ := modifyGet fun
    | [] => (.error "no answer", [])
    | answer :: answers => (answer, answers)

/-- A list in three pages, of which one has no objects, is read with three requests. If the token
of the third page has expired, there are no objects. -/
theorem one_request_per_page_of_three :
    let address : ServerAddress := ⟨some "http", "cluster", "/k8s/"⟩
    let first : Except String Response :=
      .ok ⟨200,
        "\x7b\"metadata\":\x7b\"continue\":\"b\"\x7d,\"items\":[\x7b\"kind\":\"Pod\"\x7d]\x7d"⟩
    let second : Except String Response :=
      .ok ⟨200, "\x7b\"metadata\":\x7b\"continue\":\"c d\"\x7d,\"items\":[]\x7d"⟩
    let third : Except String Response :=
      .ok ⟨200,
        "\x7b\"metadata\":\x7b\"continue\":\"\"\x7d,\"items\":[\x7b\"kind\":\"Pod\"\x7d]\x7d"⟩
    let pod : Json := .object [("kind", .string "Pod"), ("metadata", .object [])]
    let requests : List Request := [
      ⟨address, "/k8s/api/v1/pods?&labelSelector=app%3Dweb&limit=500"⟩,
      ⟨address, "/k8s/api/v1/pods?&labelSelector=app%3Dweb&limit=500&continue=b"⟩,
      ⟨address, "/k8s/api/v1/pods?&labelSelector=app%3Dweb&limit=500&continue=c+d"⟩]
    let reading := readPages (fetchPage prepared.recorded address "/api/v1/pods" (some "app=web"))
    reading.run ⟨[first, second, third], []⟩ = (.ok [pod, pod], ⟨[], requests⟩) ∧
      reading.run ⟨[first, second, .error "expired"], []⟩ =
        (.error (.noAnswer "expired"), ⟨[], requests⟩) := by
  intro address first second third pod requests reading
  have firstPage : Page.ofAnswer first = .ok ⟨[pod], some "b"⟩ := by decide +kernel
  have secondPage : Page.ofAnswer second = .ok ⟨[], some "c d"⟩ := by decide +kernel
  have thirdPage : Page.ofAnswer third = .ok ⟨[pod], some ""⟩ := by decide +kernel
  obtain ⟨answered, _, _⟩ := one_request_per_page prepared address "/api/v1/pods" (some "app=web")
  have sent : (none :: [(⟨[pod], some "b"⟩ : Page), ⟨[], some "c d"⟩].map Page.token).map
      (pageRequest address "/api/v1/pods" (some "app=web")) = requests := by
    decide +kernel
  have continuing : ∀ page ∈ [(⟨[pod], some "b"⟩ : Page), ⟨[], some "c d"⟩], page.Continues := by
    intro page member
    rcases List.mem_cons.1 member with rfl | member
    · exact ⟨"b", rfl, by decide⟩
    · obtain rfl := List.mem_singleton.1 member
      exact ⟨"c d", rfl, by decide⟩
  have runs := answered (by decide) (by decide) _ continuing
  rw [sent] at runs
  constructor
  · obtain ⟨succeeds, _⟩ := runs [first, second, third] _ _ rfl
    have holds : [first, second, third].map Page.ofAnswer =
        [(⟨[pod], some "b"⟩ : Page), ⟨[], some "c d"⟩, ⟨[pod], some ""⟩].map .ok := by
      rw [List.map_cons, List.map_cons, List.map_singleton, firstPage, secondPage, thirdPage]
      rfl
    exact (succeeds ⟨[pod], some ""⟩ (.inr rfl) holds).2 []
  · obtain ⟨_, fails⟩ := runs [first, second, .error "expired"] _ _ rfl
    have holds : [first, second, .error "expired"].map Page.ofAnswer =
        [(⟨[pod], some "b"⟩ : Page), ⟨[], some "c d"⟩].map .ok ++
          [.error (.noAnswer "expired")] := by
      rw [List.map_cons, List.map_cons, List.map_singleton, firstPage, secondPage]
      rfl
    exact (fails (.noAnswer "expired") holds).2 []

end Listing

end ClusterHosts
