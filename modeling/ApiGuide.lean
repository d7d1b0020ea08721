import ApiGuide.Main
import ApiGuide.Proofs.Block.Decomposition
import ApiGuide.Proofs.Changelog.Layout
import ApiGuide.Proofs.Index.Grouping
import ApiGuide.Proofs.Parse.ClassProse
import ApiGuide.Proofs.Parse.ParamPartition
import ApiGuide.Proofs.Parse.RoundTrip
import ApiGuide.Proofs.Pass.History
import ApiGuide.Proofs.Pass.Strict
import ApiGuide.Proofs.Session.Reload
import ApiGuide.Proofs.Block.Concat
import ApiGuide.Proofs.Pass.Files
import ApiGuide.Proofs.Block.Relayout
import ApiGuide.Proofs.Pass.Holdings
import ApiGuide.Proofs.Repository.ResetPerFile
import ApiGuide.Proofs.Json.Decoder
import ApiGuide.Proofs.Json.ReadBack
import ApiGuide.Proofs.Json.Layout
import ApiGuide.Proofs.Render.Facts
import ApiGuide.Proofs.Render.Json
import ApiGuide.Proofs.Pass.Reachable
import ApiGuide.Proofs.Ascending
import ApiGuide.Proofs.Index.Entries
import ApiGuide.Proofs.Session.Dates
import ApiGuide.Proofs.Parse.WellFormed
import ApiGuide.Proofs.Files.Path
import ApiGuide.Proofs.Files.Write
import ApiGuide.Proofs.Files.Walk
import ApiGuide.Proofs.Files.Pattern
import ApiGuide.Proofs.Files.Search
import ApiGuide.Proofs.Files.Sorted
import ApiGuide.Proofs.Repository.SourcePaths
import ApiGuide.Proofs.Command.AllOrNothing
import ApiGuide.Proofs.Render.Overview
import ApiGuide.Proofs.Slug
import ApiGuide.Proofs.Parse.TypeList
import ApiGuide.Proofs.Pass.NamedMarkers
import ApiGuide.Proofs.Index.Order
import ApiGuide.Proofs.Calendar.Timestamp
import ApiGuide.Proofs.Repository.VersionFile
import ApiGuide.Proofs.Toml.Writer
import ApiGuide.Proofs.Settings.ReadBack
import ApiGuide.Proofs.Parse.KeywordCuts
