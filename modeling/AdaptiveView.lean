import AdaptiveView.Main
import AdaptiveView.Polling
import AdaptiveView.Proofs.Selector.Torn
import AdaptiveView.Proofs.Screen.Peers
import AdaptiveView.Proofs.Screen.Measured
import AdaptiveView.Proofs.Screen.Following
import AdaptiveView.Proofs.Screen.Neighbours
import AdaptiveView.Proofs.Screen.Outage
import AdaptiveView.Proofs.Screen.Drives
import AdaptiveView.Proofs.Screen.Posted
import AdaptiveView.Proofs.Screen.Refiltered
import AdaptiveView.Proofs.Screen.Summary
import AdaptiveView.Proofs.Screen.Values
import AdaptiveView.Proofs.Screen.Refreshed
import AdaptiveView.Proofs.Selection.History
import AdaptiveView.Proofs.Preference.Version
import AdaptiveView.Proofs.Decimal.Digits
import AdaptiveView.Proofs.Json.Numerals
import AdaptiveView.Proofs.Json.Layout
import AdaptiveView.Proofs.Json.Rendered
import AdaptiveView.Proofs.Json.Doubles
import AdaptiveView.Proofs.Calendar.Written
import AdaptiveView.Proofs.Json.Fields
import AdaptiveView.Proofs.Record.Documents
import AdaptiveView.Proofs.Json.Bounded
import AdaptiveView.Proofs.Settings.Resolved
import AdaptiveView.Proofs.Settings.Saved
import AdaptiveView.Proofs.CommandLine.Flags
import AdaptiveView.Proofs.Grouping.Domains
import AdaptiveView.Proofs.Filter.Search
import AdaptiveView.Proofs.Sorting.Filtered
import AdaptiveView.Proofs.Page.Words
import AdaptiveView.Proofs.Page.Pager
import AdaptiveView.Proofs.Screen.Explained
import AdaptiveView.Proofs.Grouping.Permuted
import AdaptiveView.Proofs.Statistics.Groups
import AdaptiveView.Proofs.Report.Lines
import AdaptiveView.Proofs.Polling.Punctual
