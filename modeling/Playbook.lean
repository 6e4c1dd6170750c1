import Playbook.Main
import Playbook.Proofs.CommandLine.Scan
import Playbook.Proofs.Json.Line
import Playbook.Proofs.Session.Window
import Playbook.Proofs.Strategy.Completion
import Playbook.Proofs.Trade.Bars
import Playbook.Proofs.Trade.Budget
import Playbook.Proofs.Trade.Loss
import Playbook.Proofs.Trade.Quote
import Playbook.Proofs.Trade.View
import Playbook.Proofs.Trade.Breakout
import Playbook.Proofs.Trade.Pullback
import Playbook.Proofs.Strategy.Explained
import Playbook.Proofs.Strategy.Sections
import Playbook.Proofs.Strategy.Places
import Playbook.Proofs.Zone.Gap
import Playbook.Proofs.Session.Exchange
import Playbook.Proofs.Session.Converted
import Playbook.Proofs.Json.Outline
import Playbook.Proofs.Strategy.Outline
import Playbook.Proofs.Strategy.Recorded
import Playbook.Proofs.Zone.Spelling
import Playbook.Proofs.Market.RoundTrip
