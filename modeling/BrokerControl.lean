import BrokerControl.File.Tree
import BrokerControl.Http.Script
import BrokerControl.Main
import BrokerControl.Service.Fixture
import BrokerControl.Proofs.Fields
import BrokerControl.Proofs.Records
import BrokerControl.Proofs.Paths
import BrokerControl.Proofs.Spellings
import BrokerControl.Proofs.Tables
import BrokerControl.Proofs.Bodies
import BrokerControl.Proofs.Requests
import BrokerControl.Proofs.Trails
import BrokerControl.Proofs.Listings
import BrokerControl.Proofs.Searches
import BrokerControl.Proofs.UserListings
import BrokerControl.Proofs.Convergence
import BrokerControl.Proofs.DryRuns
import BrokerControl.Proofs.Policies
import BrokerControl.Proofs.Calls
import BrokerControl.Proofs.ListedBrokers
import BrokerControl.Proofs.Progress
import BrokerControl.Proofs.Declarations
import BrokerControl.Proofs.Encodings
import BrokerControl.Proofs.Reapplications
import BrokerControl.Proofs.Queries
import BrokerControl.Proofs.Reports
import BrokerControl.Proofs.Routes
import BrokerControl.Proofs.Targets
import BrokerControl.Proofs.Quotes
import BrokerControl.Proofs.Settings
import BrokerControl.Proofs.Servers
import BrokerControl.Proofs.WrittenRequests
import BrokerControl.Proofs.Addresses
import BrokerControl.Proofs.Extensions
import BrokerControl.Proofs.Endpoints
import BrokerControl.Proofs.HttpListings
import BrokerControl.Proofs.Identifiers
import BrokerControl.Proofs.Preconditions
import BrokerControl.Proofs.Goals
import BrokerControl.Proofs.Refusals
import BrokerControl.Proofs.Messages
import BrokerControl.Proofs.Regions
import BrokerControl.Proofs.Excerpts
import BrokerControl.Proofs.ServiceErrors
import BrokerControl.Proofs.Sentences
import BrokerControl.Proofs.Cursors
