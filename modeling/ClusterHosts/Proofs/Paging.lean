import ClusterHosts.Kubeconfig
import ClusterHosts.Proofs.Contact

/-! # Reading pages from a server

Pages are read one after the other, and from one server only. -/

namespace ClusterHosts

/-! ## Reading a list page by page

A list that is cut into pages is read to its last page or to the first page that cannot be had. What
comes of it is the objects of all pages in order, or the failure and no objects
(`Listing.run_readPages`).
-/

section

variable {σ : Type}

/-- The JSON value that an answer holds, or why there is none. -/
def Http.valueOf (answer : Except String Response) : Except ApiError Json := do
  let response ← answer.mapError ApiError.noAnswer
  let body ← accepted response
  decoded body

/-- To ask for a JSON value is to send a request for it, if its target can be sent. -/
theorem Http.run_getJson {http : Http (StateM σ)} {address : ServerAddress} {target : String}
    (sendable : ServerAddress.isPathAndQuery target.toList = true)
    (takes : address.takesPaths = true) (world : σ) :
    (http.getJson address target).run world =
      let outcome := (http.get address (address.target target)).run world
      (valueOf outcome.1, outcome.2) := by
  simp only [getJson, sendable, takes, Bool.not_true, Bool.false_eq_true, ↓reduceIte, run_bind]
  rcases (http.get address (address.target target)).run world with ⟨words | response, after⟩ <;> rfl

/-- The page that an answer holds, or why there is none. -/
def Page.ofAnswer (answer : Except String Response) : Except ApiError Page := do
  let value ← Http.valueOf answer
  (ofJson value).mapError ApiError.malformed

namespace Listing

/-- The pages that are read from a token on, from one world to another, and the failure that ends
the reading if it does not end with a last page. The token of each page asks for the next one. -/
inductive Reads (fetch : Option String → StateM σ (Except ApiError Page)) :
    Option String → σ → List Page → Option ApiError → σ → Prop where
  | last {token : Option String} {world after : σ} {page : Page}
      (answer : (fetch token).run world = (.ok page, after)) (final : page.next? = none) :
      Reads fetch token world [page] none after
  | more {token : Option String} {world between after : σ} {page : Page} {pages : List Page}
      {next : String} {failure : Option ApiError}
      (answer : (fetch token).run world = (.ok page, between)) (continues : page.next? = some next)
      (rest : Reads fetch (some next) between pages failure after) :
      Reads fetch token world (page :: pages) failure after
  | fails {token : Option String} {world after : σ} {error : ApiError}
      (answer : (fetch token).run world = (.error error, after)) :
      Reads fetch token world [] (some error) after

variable {fetch : Option String → StateM σ (Except ApiError Page)}

/-- Every page that is read is an answer to a question. -/
theorem Reads.exists_answer {token : Option String} {world after : σ} {pages : List Page}
    {failure : Option ApiError} (reads : Reads fetch token world pages failure after) {page : Page}
    (member : page ∈ pages) :
    ∃ token world after, (fetch token).run world = (.ok page, after) := by
  induction reads with
  | last answer _ =>
      rw [List.mem_singleton.1 member]
      exact ⟨_, _, _, answer⟩
  | more answer _ _ ih =>
      rcases List.mem_cons.1 member with rfl | member
      · exact ⟨_, _, _, answer⟩
      · exact ih member
  | fails _ => exact absurd member List.not_mem_nil

/-- One turn of the reading. -/
theorem run_readFrom (progress : Progress) (world : σ) :
    (readFrom fetch progress).run world =
      match (fetch progress.token).run world with
      | (.error error, after) => (.error error, after)
      | (.ok page, after) =>
          match page.next? with
          | some next =>
              (readFrom fetch ⟨some next, progress.items ++ page.items⟩).run after
          | none => (.ok (progress.items ++ page.items), after) := by
  -- A loop can be unfolded in any monad that has an outcome for one that does not end.
  have inhabited : Nonempty σ := ⟨world⟩
  rw [readFrom, repeatM_eq_of_monadTail]
  simp only [repeatM.body, readPage, run_bind]
  rcases (fetch progress.token).run world with ⟨error | page, after⟩
  · rfl
  · cases continues : page.next? with
    | some next =>
        simp only [continues]
        rfl
    | none =>
        simp only [continues]
        rfl

/-- Pages that are read are read in order, behind the objects that are there already. -/
theorem run_readFrom_of_reads {token : Option String} {world after : σ} {pages : List Page}
    {failure : Option ApiError} (reads : Reads fetch token world pages failure after)
    (items : List Json) :
    (readFrom fetch ⟨token, items⟩).run world =
      (failure.elim (.ok (items ++ pages.flatMap Page.items)) .error, after) := by
  induction reads generalizing items with
  | last answer final => simp [run_readFrom, answer, final]
  | more answer continues rest ih => simp [run_readFrom, answer, continues, ih]
  | fails answer => simp [run_readFrom, answer]

/-- The objects of pages that are read. -/
theorem run_readPages {world after : σ} {pages : List Page} {failure : Option ApiError}
    (reads : Reads fetch none world pages failure after) :
    (readPages fetch).run world =
      (failure.elim (.ok (pages.flatMap Page.items)) .error, after) := by
  rw [readPages, run_readFrom_of_reads reads []]
  rfl

/-- A page is asked for with one request, and its answer decides. -/
theorem run_fetchPage_of_get {http : Http (StateM σ)} {address : ServerAddress} {path : String}
    {selector token : Option String} {world after : σ} {answer : Except String Response}
    (sent : ServerAddress.isPathAndQuery (pageTarget path selector token).toList = true)
    (takes : address.takesPaths = true)
    (answers : (http.get address (address.target (pageTarget path selector token))).run world =
      (answer, after)) :
    (fetchPage http address path selector token).run world = (Page.ofAnswer answer, after) := by
  rw [fetchPage, run_bind, Http.run_getJson sent takes, answers]
  simp only [Page.ofAnswer, bind, Except.bind]
  cases Http.valueOf answer with
  | error error => rfl
  | ok value =>
      simp only
      cases Page.ofJson value <;> rfl

/-- A page is had from an answer that is one. -/
theorem run_fetchPage {http : Http (StateM σ)} {address : ServerAddress} {path target : String}
    {selector token : Option String} {world after : σ} {answer : Except String Response}
    {page : Page} (asks : pageTarget path selector token = target)
    (sent : ServerAddress.isPathAndQuery target.toList = true) (takes : address.takesPaths = true)
    (answers : (http.get address (address.target target)).run world = (answer, after))
    (holds : Page.ofAnswer answer = .ok page) :
    (fetchPage http address path selector token).run world = (.ok page, after) := by
  subst asks
  rw [run_fetchPage_of_get sent takes answers, holds]

/-- What is found in a scope whose pages are read, or the failure that ends the reading. -/
theorem run_ofScope {http : Http (StateM σ)} {address : ServerAddress} {query : Query}
    {resource : Resource} {inNamespace : Option String} {world after : σ} {pages : List Page}
    {failure : Option ApiError}
    (reads : Reads (fetchPage http address (resource.path inNamespace) query.labelSelector?) none
      world pages failure after) :
    (ofScope http address query resource inNamespace).run world =
      (failure.elim
        (.ok ⟨resource.kind, inNamespace, select query resource (pages.flatMap Page.items)⟩)
        (fun error => .error (.unlisted resource.plural error)), after) := by
  simp only [ofScope]
  rw [run_bind, run_readPages reads]
  cases failure <;> rfl

end Listing

end

/-! ## A search asks one server

Whoever searches the cluster of a server asks this server and no other: two ways to ask servers that
are the same for it give the same searches (`ApiServer.searcher_congr`).
-/

variable {m : Type → Type} [Monad m]

/-- Two ways to ask servers are the same for one of them. -/
def Http.AgreeAt (address : ServerAddress) (first second : Http m) : Prop :=
  ∀ target, first.get address target = second.get address target

variable {address : ServerAddress} {first second : Http m}
  (agree : Http.AgreeAt address first second)

include agree

/-! ### Asking -/

namespace Http

/-- Ways to ask that agree at a server agree with what is shown to it. -/
theorem agreeAt_authorized (authorization : Authorization) :
    AgreeAt address (first.authorized authorization) (second.authorized authorization) := by
  intro target
  simp only [authorized, authorized.send, agree target]

/-- Ways to ask that agree at a server get the same values from it. -/
theorem getJson_congr (target : String) :
    first.getJson address target = second.getJson address target := by
  rw [getJson, getJson, agree]

theorem getShape_congr (target : String) (shape : Shape) :
    first.getShape address target shape = second.getShape address target shape := by
  rw [getShape, getShape, getJson_congr agree]

end Http

/-! ### Discovery -/

namespace Discovery

theorem versions_congr (paths : List (String × String)) :
    versions first address paths = versions second address paths := by
  induction paths with
  | nil => rfl
  | cons pair paths ih =>
      obtain ⟨version, path⟩ := pair
      rw [versions, versions, Http.getShape_congr agree, ih]

theorem namedGroup_congr (version : String) (entry : Json) :
    namedGroup first address version entry = namedGroup second address version entry := by
  simp only [namedGroup, versions_congr agree]

theorem namedGroups_congr (version : String) (entries : List Json)
    (found : Option (List Resource)) :
    namedGroups first address version found entries =
      namedGroups second address version found entries := by
  induction entries generalizing found with
  | nil => rfl
  | cons entry entries ih => simp only [namedGroups, namedGroup_congr agree, ih]

theorem coreGroup_congr (version : String) :
    coreGroup first address version = coreGroup second address version := by
  simp only [coreGroup, Http.getShape_congr agree, versions_congr agree]

theorem resolve_congr (groupName version kind : String) :
    resolve first address groupName version kind =
      resolve second address groupName version kind := by
  simp only [resolve, group, Http.getShape_congr agree, namedGroups_congr agree,
    coreGroup_congr agree]

end Discovery

/-! ### Lists -/

namespace Listing

theorem fetchPage_congr (path : String) (selector : Option String) :
    fetchPage first address path selector = fetchPage second address path selector := by
  funext token
  rw [fetchPage, fetchPage, Http.getJson_congr agree]

theorem ofScope_congr (query : Query) (resource : Resource) (inNamespace : Option String) :
    ofScope first address query resource inNamespace =
      ofScope second address query resource inNamespace := by
  simp only [ofScope, fetchPage_congr agree]

theorem ofScopes_congr (query : Query) (resource : Resource) (scopes : List (Option String)) :
    ofScopes first address query resource scopes =
      ofScopes second address query resource scopes := by
  induction scopes with
  | nil => rfl
  | cons scope scopes ih => rw [ofScopes, ofScopes, ofScope_congr agree, ih]

/-- Ways to ask that agree at a server search alike. -/
theorem search_congr (query : Query) :
    search first address query = search second address query := by
  simp only [search, Discovery.resolve_congr agree, ofScopes_congr agree]

end Listing

omit agree

/-- **A search asks one server.** How other servers would answer does not matter. -/
theorem ApiServer.searcher_congr (server : ApiServer)
    (agree : Http.AgreeAt server.address first second) :
    server.searcher first = server.searcher second := by
  funext query
  simp only [searcher, Listing.search_congr (Http.agreeAt_authorized agree server.authorization)]

end ClusterHosts
