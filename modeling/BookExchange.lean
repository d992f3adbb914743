import BookExchange.Book
import BookExchange.Catalogue
import BookExchange.CommandLine
import BookExchange.Data.Numeral
import BookExchange.Data.Record
import BookExchange.Data.Tree
import BookExchange.Directory
import BookExchange.Exchange
import BookExchange.Failure
import BookExchange.Genre
import BookExchange.Http.Extract
import BookExchange.Http.Media
import BookExchange.Http.Message
import BookExchange.Http.Route
import BookExchange.Http.Service
import BookExchange.Json.Reader
import BookExchange.Json.Token
import BookExchange.Json.Value
import BookExchange.Market.Accounts
import BookExchange.Market.Exchanges
import BookExchange.Market.Operation
import BookExchange.Market.Reviews
import BookExchange.Market.Shelves
import BookExchange.Number.Double
import BookExchange.Review
import BookExchange.Settings
import BookExchange.Store.Basic
import BookExchange.Store.Books
import BookExchange.Store.Exchanges
import BookExchange.Store.Genres
import BookExchange.Store.Location
import BookExchange.Store.Reviews
import BookExchange.Store.Search
import BookExchange.Store.Table
import BookExchange.Store.Users
import BookExchange.Summary
import BookExchange.Text.Blank
import BookExchange.Text.Case
import BookExchange.Text.CaseTable
import BookExchange.Text.Decimal
import BookExchange.Text.Form
import BookExchange.Text.Hex
import BookExchange.Text.Like
import BookExchange.Text.Printable
import BookExchange.Text.Quoted
import BookExchange.Text.Range
import BookExchange.Text.Utf8
import BookExchange.Token.Base64Url
import BookExchange.Token.Sha256
import BookExchange.Token.Verifier
import BookExchange.Toml.Document
import BookExchange.Toml.Quoted
import BookExchange.Toml.Scalar
import BookExchange.Toml.Table
import BookExchange.User
import BookExchange.Wire
import BookExchange.Main
import BookExchange.Market.Command
import BookExchange.Proofs.Table
import BookExchange.Proofs.Call
import BookExchange.Proofs.Statements
import BookExchange.Proofs.Ports
import BookExchange.Proofs.Services
import BookExchange.Proofs.Atomicity
import BookExchange.Proofs.Runs
import BookExchange.Proofs.Lifecycle
import BookExchange.Proofs.Reservation
import BookExchange.Proofs.Ownership
import BookExchange.Proofs.Locking
import BookExchange.Proofs.Agreement
import BookExchange.Proofs.Independence
import BookExchange.Proofs.Contention
import BookExchange.Proofs.Staleness
import BookExchange.Proofs.Interleaving
import BookExchange.Proofs.Closure
import BookExchange.Proofs.Emails
import BookExchange.Proofs.Erasure
import BookExchange.Proofs.Authority
import BookExchange.Proofs.Gate
import BookExchange.Proofs.ByteOrder
import BookExchange.Proofs.Folding
import BookExchange.Proofs.Keys
import BookExchange.Proofs.Finding
import BookExchange.Proofs.Tombstones
import BookExchange.Proofs.Decisions
import BookExchange.Proofs.Proposals
import BookExchange.Proofs.Counting
import BookExchange.Proofs.Conservation
import BookExchange.Proofs.Refusals
import BookExchange.Proofs.Faults
import BookExchange.Proofs.Paging
import BookExchange.Proofs.Filing
import BookExchange.Proofs.Departure
import BookExchange.Proofs.Concordance
import BookExchange.Proofs.Readback
import BookExchange.Proofs.Ratings
import BookExchange.Proofs.Summaries
import BookExchange.Proofs.Tidiness
import BookExchange.Proofs.Uniqueness
import BookExchange.Proofs.Exclusion
import BookExchange.Proofs.Describing
import BookExchange.Proofs.Fallback
import BookExchange.Proofs.Bearers
import BookExchange.Proofs.Canonical
import BookExchange.Proofs.Literals
import BookExchange.Proofs.Excerpts
